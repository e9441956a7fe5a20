import AssetMenu.Proofs.Manifest.Acceptance
import Mathlib.Data.List.Chain

/-!
# Cycles

A type is on a cycle if it leads back to itself; other types may lead into a cycle without
being on it.  The way back is looked for from one declared type after the other, and a walk
from a type that is on no cycle gives up before a name that it has met.  So a cycle is
reported from the first type that is on one, and the report goes once through the types of
the cycle.
-/

namespace AssetMenu.Manifest

variable {manifest : Manifest} {start name : String}

/-! ## The search without its bound -/

/-- The search for `start` on the way up from a name, where the names in `seen` were met
before, and the way that is found.  Only a name without a base, `start` itself and a name that
was met before end the search. -/
inductive Search (manifest : Manifest) (start : String) :
    List String → String → Option (List String) → Prop
  | top {seen : List String} {name : String} :
      manifest.base? name = none → Search manifest start seen name none
  | closed {seen : List String} {name : String} :
      manifest.base? name = some start → Search manifest start seen name (some [start])
  | back {seen : List String} {name base : String} :
      manifest.base? name = some base → base ≠ start → base ∈ seen →
        Search manifest start seen name none
  | up {seen : List String} {name base : String} {found : Option (List String)} :
      manifest.base? name = some base → base ≠ start → base ∉ seen →
        Search manifest start (base :: seen) base found →
          Search manifest start seen name (found.map (base :: ·))

theorem Search.unique {seen : List String} {found other : Option (List String)}
    (hsearch : Search manifest start seen name found)
    (hother : Search manifest start seen name other) : found = other := by
  induction hsearch generalizing other with
  | top hnone => cases hother <;> simp_all
  | closed hbase => cases hother <;> simp_all
  | back hbase hne hseen => cases hother <;> simp_all
  | up hbase hne hfresh _ ih =>
      cases hother with
      | top hnone => simp_all
      | closed hbase' => simp_all
      | back hbase' _ hseen => simp_all
      | up hbase' _ _ hrest =>
          obtain rfl := Option.some.inj (hbase.symm.trans hbase')
          rw [ih hrest]

/-- The bound of the search never ends it. -/
theorem OnTrail.search {bound : Nat} {past : List String}
    (htrail : OnTrail manifest bound past name) :
    Search manifest start (name :: past) name
      (manifest.returnWithin start bound (name :: past) name) := by
  induction bound generalizing past name with
  | zero => exact .top htrail.base?_eq_none
  | succ bound ih =>
      rw [returnWithin]
      split
      next hbase => exact .top hbase
      next base hbase =>
        split
        next hstart => exact hstart ▸ .closed (hstart ▸ hbase)
        next hne =>
          split
          next hseen => exact .back hbase hne hseen
          next hfresh => exact .up hbase hne hfresh (ih (htrail.step hbase hfresh))

theorem exists_search (manifest : Manifest) (start : String) :
    ∃ found, Search manifest start [start] start found ∧
      manifest.cycleThrough? start = found.map (start :: ·) :=
  ⟨_, (OnTrail.start start).search, rfl⟩

/-! ## The cycle that is found -/

/-- A way from a type back to itself, where every type is followed by its base and none but
the first comes up again. -/
structure IsCycle (manifest : Manifest) (start : String) (chain : List String) : Prop where
  closed : ∃ bases, chain = start :: bases ++ [start]
  steps : chain.IsChain manifest.Extends
  once : chain.dropLast.Nodup

theorem IsCycle.exists_extends {chain : List String} (hcycle : IsCycle manifest start chain) :
    ∃ base, manifest.Extends start base := by
  obtain ⟨bases, rfl⟩ := hcycle.closed
  cases bases with
  | nil => exact ⟨start, List.isChain_pair.mp hcycle.steps⟩
  | cons base bases => exact ⟨base, (List.isChain_cons_cons.mp hcycle.steps).1⟩

theorem isCycle_of_cycleThrough? (hnames : (manifest.types.map Prod.fst).Nodup)
    {chain : List String} (hchain : manifest.cycleThrough? start = some chain) :
    IsCycle manifest start chain := by
  have hclimb := climb_ancestors manifest start
  rw [cycleThrough?_eq, Option.ite_none_right_eq_some] at hchain
  obtain ⟨hlast, hchain⟩ := hchain
  obtain rfl := Option.some.inj hchain
  constructor
  case closed => exact ⟨_, rfl⟩
  case steps =>
    rw [extends_eq_hasBase hnames]
    apply hclimb.isChain.append (.singleton start)
    rw [List.getLast?_cons]
    rintro last hmem base hbase
    obtain rfl := Option.some.inj hmem
    obtain rfl := Option.some.inj hbase
    rwa [HasBase, ← List.getLastD_eq_getLast?]
  case once =>
    rw [List.dropLast_concat, List.nodup_cons]
    exact ⟨fun hagain => hclimb.not_mem_seen start hagain List.mem_cons_self, hclimb.nodup⟩

theorem exists_first_cycle (hnames : (manifest.types.map Prod.fst).Nodup)
    (hcyclic : ¬ manifest.Acyclic) :
    ∃ before start declaration reference after chain,
      manifest.types = before ++ (start, declaration) :: after ∧
      (∀ earlier ∈ before, ¬ Relation.TransGen manifest.Extends earlier.1 earlier.1) ∧
      declaration.base = some reference ∧ IsCycle manifest start chain ∧
      forM manifest.types manifest.checkCycle =
        .error (.inheritanceCycle chain (some reference.span)) := by
  obtain ⟨before, ⟨start, declaration⟩, after, chain, htypes, hbefore, hchain, hfault⟩ :=
    exists_first_inheritanceCycle hnames hcyclic
  have hcycle := isCycle_of_cycleThrough? hnames hchain
  have hmem : (start, declaration) ∈ manifest.types := by simp [htypes]
  obtain ⟨base, other, reference, hother, hbase, -⟩ := hcycle.exists_extends
  obtain rfl := eq_of_mem_types hnames hmem hother
  rw [hbase] at hfault
  refine ⟨before, start, declaration, reference, after, chain, htypes, ?_, hbase, hcycle, hfault⟩
  intro earlier hearlier
  rw [extends_eq_hasBase hnames, ← cycleThrough?_eq_none_iff]
  exact hbefore earlier hearlier

/-! ## What a source with a cycle is refused for -/

/-- The search for a cycle ends in every manifest, declared as it may be.  A source whose output
path and names are fine and whose types have a cycle is refused for the cycle through the first
type that is on one, and the label is at the base that this type names. -/
theorem ofSource_reports_cycle :
    (∀ (graph : Manifest) (start : String), ∃ found,
      (∀ other, Search graph start [start] start other ↔ other = found) ∧
        graph.cycleThrough? start = found.map (start :: ·)) ∧
    ∀ (source file : String) (table : Document.Table) (manifest : Manifest),
      Document.ofSource? source.toList = some table → ofDocument table = .ok manifest →
      manifest.generator.output.text ≠ "" → firstIllNamed? manifest.namePlaces = none →
      ¬ manifest.Acyclic →
        ∃ before start declaration reference after chain,
          manifest.types = before ++ (start, declaration) :: after ∧
          (∀ earlier ∈ before, ¬ Relation.TransGen manifest.Extends earlier.1 earlier.1) ∧
          declaration.base = some reference ∧ IsCycle manifest start chain ∧
          ofSource source file =
            .error (.refused file (.inheritanceCycle chain (some reference.span))) := by
  constructor
  case left =>
    intro graph start
    obtain ⟨found, hsearch, hcycle⟩ := exists_search graph start
    refine ⟨found, fun other => ⟨fun hother => hother.unique hsearch, ?_⟩, hcycle⟩
    rintro rfl
    exact hsearch
  case right =>
    intro source file table manifest hdocument hmanifest houtput hplaces hcyclic
    have hnames := nodup_names_of_ofDocument (Document.distinctKeys_of_ofSource? hdocument)
      hmanifest
    obtain ⟨before, start, declaration, reference, after, chain, htypes, hbefore, hbase, hcycle,
      hfault⟩ := exists_first_cycle hnames hcyclic
    refine ⟨before, start, declaration, reference, after, chain, htypes, hbefore, hbase, hcycle,
      ?_⟩
    rw [ofSource_eq_validate file hdocument hmanifest,
      validate_of_wellNamed source houtput hplaces, hfault]
    rfl

/-- A type that leads into a cycle of two others, and a type that is its own base. -/
def tailedSource : String :=
  "[generator]\noutput = \"M.cs\"\n[types.A]\nextends = \"B\"\n[types.B]\nextends = \"C\"\n" ++
    "[types.C]\nextends = \"B\"\n[types.D]\nextends = \"D\"\n"

/-- The manifest in `tailedSource`. -/
def tailedManifest : Manifest :=
  let declaration (base : String) (span : Document.Span) : TypeDeclaration :=
    ⟨none, some ⟨base, span⟩, false, false, true, none⟩
  ⟨⟨⟨"M.cs"⟩, 0, Affixes.none, defaultBaseType, true⟩,
    [("A", declaration "B" ⟨48, 51⟩), ("B", declaration "C" ⟨72, 75⟩),
      ("C", declaration "B" ⟨96, 99⟩), ("D", declaration "D" ⟨120, 123⟩)]⟩

theorem exists_document_tailedSource :
    ∃ table, Document.ofSource? tailedSource.toList = some table ∧
      ofDocument table = .ok tailedManifest :=
  Option.map_eq_some_iff.mp (by decide +kernel)

theorem not_acyclic_tailedManifest : ¬ tailedManifest.Acyclic := by
  intro hacyclic
  have hself : tailedManifest.Extends "D" "D" :=
    ⟨_, _, List.mem_append_right (tailedManifest.types.take 3) List.mem_cons_self, rfl, rfl⟩
  exact hacyclic "D" (.single hself)

theorem ofSource_tailedSource :
    tailedManifest.generator.output.text ≠ "" ∧
      firstIllNamed? tailedManifest.namePlaces = none ∧ ¬ tailedManifest.Acyclic ∧
      ofSource tailedSource fileName =
        .error (.refused fileName (.inheritanceCycle ["B", "C", "B"] (some ⟨72, 75⟩))) ∧
      ∃ before start declaration reference after chain,
        tailedManifest.types = before ++ (start, declaration) :: after ∧
        (∀ earlier ∈ before, ¬ Relation.TransGen tailedManifest.Extends earlier.1 earlier.1) ∧
        declaration.base = some reference ∧ IsCycle tailedManifest start chain ∧
        ofSource tailedSource fileName =
          .error (.refused fileName (.inheritanceCycle chain (some reference.span))) := by
  obtain ⟨table, hdocument, hmanifest⟩ := exists_document_tailedSource
  have houtput : tailedManifest.generator.output.text ≠ "" := by decide
  have hplaces : firstIllNamed? tailedManifest.namePlaces = none := by decide +kernel
  have hvalidate : tailedManifest.validate tailedSource =
      .error (.inheritanceCycle ["B", "C", "B"] (some ⟨72, 75⟩)) := by decide +kernel
  have hfault : ofSource tailedSource fileName =
      .error (.refused fileName (.inheritanceCycle ["B", "C", "B"] (some ⟨72, 75⟩))) := by
    rw [ofSource_eq_validate fileName hdocument hmanifest, hvalidate]
    rfl
  exact ⟨houtput, hplaces, not_acyclic_tailedManifest, hfault,
    ofSource_reports_cycle.2 _ fileName table _ hdocument hmanifest houtput hplaces
      not_acyclic_tailedManifest⟩

/-- A type that is its own base, in a manifest without an output path. -/
def homelessSource : String :=
  "[generator]\noutput = \"\"\n[types.A]\nextends = \"A\"\n"

/-- The manifest in `homelessSource`. -/
def homelessManifest : Manifest :=
  ⟨⟨⟨""⟩, 0, Affixes.none, defaultBaseType, true⟩,
    [("A", ⟨none, some ⟨"A", ⟨44, 47⟩⟩, false, false, true, none⟩)]⟩

/-- The missing output path is reported before the cycle. -/
theorem ofSource_homelessSource :
    ∃ table, Document.ofSource? homelessSource.toList = some table ∧
      ofDocument table = .ok homelessManifest ∧
      firstIllNamed? homelessManifest.namePlaces = none ∧ ¬ homelessManifest.Acyclic ∧
      ∀ chain label, ofSource homelessSource fileName ≠
        .error (.refused fileName (.inheritanceCycle chain label)) := by
  obtain ⟨table, hdocument, hmanifest⟩ : ∃ table,
      Document.ofSource? homelessSource.toList = some table ∧
        ofDocument table = .ok homelessManifest :=
    Option.map_eq_some_iff.mp (by decide +kernel)
  have hplaces : firstIllNamed? homelessManifest.namePlaces = none := by decide +kernel
  have hself : homelessManifest.Extends "A" "A" := ⟨_, _, List.mem_cons_self, rfl, rfl⟩
  have hmissing : homelessManifest.generator.output.text = "" := rfl
  obtain ⟨place, hvalidate⟩ := validate_of_output_empty homelessSource hmissing
  refine ⟨table, hdocument, hmanifest, hplaces,
    fun hacyclic => hacyclic "A" (.single hself), fun chain label => ?_⟩
  rw [ofSource_eq_validate fileName hdocument hmanifest, hvalidate]
  simp [Except.map]

end AssetMenu.Manifest
