import AssetMenu.Proofs.Manifest.Acceptance

/-!
# Lineages

The lineage of a type is the whole sequence of its bases, up to the first name that
names no base itself.  There is at most one, and what follows a base in it is the
lineage of that base.  A walk from base to base breaks off before a name that it has
met, but in an accepted manifest it never meets one, so the ancestors of a type are
its lineage, and derivation is a strict order.
-/

namespace AssetMenu.Manifest

variable {manifest : Manifest} {name base : String} {bases : List String}

/-- Where every base ranks below what derives from it, no name leads back to itself. -/
theorem acyclic_of_rank (rank : String → Nat)
    (hrank : ∀ derived base, manifest.Extends derived base → rank base < rank derived) :
    manifest.Acyclic := by
  have hreaches : ∀ {derived base : String},
      Relation.TransGen manifest.Extends derived base → rank base < rank derived := by
    intro derived base hreaches
    induction hreaches with
    | single hextends => exact hrank _ _ hextends
    | tail _ hextends ih => exact Nat.lt_trans (hrank _ _ hextends) ih
  exact fun name hcycle => Nat.lt_irrefl _ (hreaches hcycle)

/-- The whole sequence of bases on the way up from a name. -/
inductive Lineage (manifest : Manifest) : String → List String → Prop
  | root {name : String} : (∀ base, ¬ manifest.Extends name base) → Lineage manifest name []
  | step {name base : String} {bases : List String} :
      manifest.Extends name base → Lineage manifest base bases →
        Lineage manifest name (base :: bases)

namespace Lineage

theorem unique (hnames : (manifest.types.map Prod.fst).Nodup)
    (hlineage : Lineage manifest name bases) {others : List String}
    (hother : Lineage manifest name others) : bases = others := by
  induction hlineage generalizing others with
  | root hnone =>
      cases hother with
      | root => rfl
      | step hextends => exact absurd hextends (hnone _)
  | step hextends _ ih =>
      cases hother with
      | root hnone => exact absurd hextends (hnone _)
      | step hextends' hrest =>
          rw [extends_iff_hasBase hnames] at hextends hextends'
          obtain rfl := Option.some.inj (hextends.symm.trans hextends')
          rw [ih hrest]

/-- What follows a base is the lineage of that base. -/
theorem exists_append (hlineage : Lineage manifest name bases) (hbase : base ∈ bases) :
    ∃ before after, bases = before ++ base :: after ∧ Lineage manifest base after := by
  induction hlineage with
  | root => contradiction
  | @step _ nearest rest _ hrest ih =>
      rcases List.mem_cons.mp hbase with rfl | hlater
      · exact ⟨[], rest, rfl, hrest⟩
      · obtain ⟨before, after, hsplit, hafter⟩ := ih hlater
        exact ⟨nearest :: before, after, by rw [hsplit, List.cons_append], hafter⟩

end Lineage

/-! ## Walks that meet no name twice -/

/-- A walk that can only come back to names that lead to where it stands does not come
back at all, unless there is a cycle. -/
theorem Climb.lineage (hnames : (manifest.types.map Prod.fst).Nodup)
    (hacyclic : manifest.Acyclic) {seen : List String}
    (hclimb : Climb manifest seen name bases)
    (hseen : ∀ earlier ∈ seen, Relation.ReflTransGen manifest.HasBase earlier name) :
    Lineage manifest name bases := by
  rw [Acyclic, extends_eq_hasBase hnames] at hacyclic
  induction hclimb with
  | top hnone =>
      apply Lineage.root
      intro base hextends
      rw [extends_iff_hasBase hnames, HasBase, hnone] at hextends
      contradiction
  | @back _ name base hbase hmet =>
      have hcycle : Relation.TransGen manifest.HasBase name name := .head' hbase (hseen base hmet)
      exact absurd hcycle (hacyclic name)
  | up hbase _ _ ih =>
      apply Lineage.step ((extends_iff_hasBase hnames).mpr hbase)
      apply ih
      rw [List.forall_mem_cons]
      exact ⟨.refl, fun earlier hearlier => (hseen earlier hearlier).tail hbase⟩

theorem length_basesWithin_le (bound : Nat) (seen : List String) (name : String) :
    (manifest.basesWithin bound seen name).length ≤ bound := by
  induction bound generalizing seen name with
  | zero => simp [basesWithin]
  | succ bound ih =>
      rw [basesWithin]
      split
      next => exact Nat.zero_le _
      next base _ =>
        split
        · exact Nat.zero_le _
        · exact Nat.succ_le_succ (ih (base :: seen) base)

/-- In a manifest without cycles the ancestors of a type are its lineage. -/
theorem lineage_ancestors (hnames : (manifest.types.map Prod.fst).Nodup)
    (hacyclic : manifest.Acyclic) (name : String) :
    Lineage manifest name (manifest.ancestors name) := by
  apply (climb_ancestors manifest name).lineage hnames hacyclic
  intro earlier hearlier
  obtain rfl := List.mem_singleton.mp hearlier
  exact .refl

theorem ancestors_eq_append (hnames : (manifest.types.map Prod.fst).Nodup)
    (hacyclic : manifest.Acyclic) (hbase : base ∈ manifest.ancestors name) :
    ∃ before, manifest.ancestors name = before ++ base :: manifest.ancestors base := by
  obtain ⟨before, after, hsplit, hafter⟩ :=
    (lineage_ancestors hnames hacyclic name).exists_append hbase
  obtain rfl := hafter.unique hnames (lineage_ancestors hnames hacyclic base)
  exact ⟨before, hsplit⟩

/-! ## Derivation -/

/-- The types that are known from a manifest. -/
def Knows (manifest : Manifest) (type : TypeInfo) : Prop :=
  ∃ name, manifest.typeInfo? name = some type

/-- A type derives from what its declaration leads to. -/
theorem Knows.derivesFrom_iff (hnames : (manifest.types.map Prod.fst).Nodup)
    (hacyclic : manifest.Acyclic) {type : TypeInfo} (htype : manifest.Knows type) :
    type.derivesFrom base = true ↔ Relation.TransGen manifest.Extends type.fullName base := by
  obtain ⟨name, hname⟩ := htype
  obtain ⟨declaration, -, rfl⟩ := Option.map_eq_some_iff.mp hname
  rw [TypeInfo.derivesFrom, List.contains_iff_mem, mem_ancestors_iff, ← extends_eq_hasBase hnames,
    and_iff_left_iff_imp]
  rintro hreaches rfl
  exact hacyclic base hreaches

/-- Derivation among the known types is a strict order. -/
structure StrictlyOrdered (manifest : Manifest) : Prop where
  irreflexive : ∀ type, manifest.Knows type → ¬ type.derivesFrom type.fullName
  asymmetric : ∀ derived base, manifest.Knows derived → manifest.Knows base →
    derived.derivesFrom base.fullName → ¬ base.derivesFrom derived.fullName
  transitive : ∀ derived middle base, manifest.Knows derived → manifest.Knows middle →
    manifest.Knows base → derived.derivesFrom middle.fullName →
      middle.derivesFrom base.fullName → derived.derivesFrom base.fullName

theorem strictlyOrdered (hnames : (manifest.types.map Prod.fst).Nodup)
    (hacyclic : manifest.Acyclic) : manifest.StrictlyOrdered where
  irreflexive type htype hself :=
    hacyclic _ ((htype.derivesFrom_iff hnames hacyclic).mp hself)
  asymmetric derived base hderived hbase hup hdown := by
    rw [hderived.derivesFrom_iff hnames hacyclic] at hup
    rw [hbase.derivesFrom_iff hnames hacyclic] at hdown
    exact hacyclic _ (hup.trans hdown)
  transitive derived middle base hderived hmiddle _ hfirst hsecond := by
    rw [hderived.derivesFrom_iff hnames hacyclic] at hfirst
    rw [hmiddle.derivesFrom_iff hnames hacyclic] at hsecond
    exact (hderived.derivesFrom_iff hnames hacyclic).mpr (hfirst.trans hsecond)

/-- In an accepted manifest the ancestors of a type are all its bases, each of them once, and
behind each of them stand its own ancestors. -/
theorem ancestors_are_lineage {source file : String}
    (hread : ofSource source file = .ok manifest) :
    (∀ name,
      Lineage manifest name (manifest.ancestors name) ∧
      (manifest.ancestors name).Nodup ∧ name ∉ manifest.ancestors name ∧
      (manifest.ancestors name).length ≤ manifest.types.length ∧
      ∀ base ∈ manifest.ancestors name,
        ∃ before, manifest.ancestors name = before ++ base :: manifest.ancestors base) ∧
    manifest.StrictlyOrdered := by
  have hnames := nodup_names_of_ofSource hread
  have hacyclic := (wellFormed_of_ofSource hread).acyclic
  refine ⟨fun name => ?_, strictlyOrdered hnames hacyclic⟩
  have hclimb := climb_ancestors manifest name
  refine ⟨lineage_ancestors hnames hacyclic name, hclimb.nodup, ?_,
    length_basesWithin_le _ _ _, fun base => ancestors_eq_append hnames hacyclic⟩
  intro hself
  exact hclimb.not_mem_seen name hself List.mem_cons_self

/-- Two types that lead to a third, whose base is not declared, the farther one declared
first. -/
def forkedSource : String :=
  "[generator]\noutput = \"M.cs\"\n[types.C]\nextends = \"B\"\n[types.B]\nextends = \"A\"\n" ++
    "[types.D]\nextends = \"A\"\n[types.A]\nextends = \"S\"\n"

/-- The manifest in `forkedSource`. -/
def forkedManifest : Manifest :=
  let declaration (base : String) (span : Document.Span) : TypeDeclaration :=
    ⟨none, some ⟨base, span⟩, false, false, true, none⟩
  ⟨⟨⟨"M.cs"⟩, 0, Affixes.none, defaultBaseType, true⟩,
    [("C", declaration "B" ⟨48, 51⟩), ("B", declaration "A" ⟨72, 75⟩),
      ("D", declaration "A" ⟨96, 99⟩), ("A", declaration "S" ⟨120, 123⟩)]⟩

theorem ancestors_forkedManifest :
    ofSource forkedSource fileName = .ok forkedManifest ∧
      forkedManifest.ancestors "C" = ["B", "A", "S"] ∧
      Lineage forkedManifest "C" ["B", "A", "S"] ∧ forkedManifest.StrictlyOrdered := by
  have hread : ofSource forkedSource fileName = .ok forkedManifest :=
    eq_ok_of_toOption (by decide +kernel)
  have hancestors : forkedManifest.ancestors "C" = ["B", "A", "S"] := by decide
  obtain ⟨hlineage, hordered⟩ := ancestors_are_lineage hread
  exact ⟨hread, hancestors, hancestors ▸ (hlineage "C").1, hordered⟩

end AssetMenu.Manifest
