import AssetMenu.Manifest.Registry
import Mathlib.Data.Finset.Card
import Mathlib.Logic.Relation

/-!
# Ancestors and cycles

Every name leads to at most one base, so a walk from base to base can end in two
ways only: at a name without a base, or before a name that it has met already.
Its bound never cuts it short, since it leaves a declared name behind with every
step.  Hence the ancestors of a type are all the names that it leads to, and a
type is on a cycle exactly if the base of its last ancestor is the type itself.
-/

namespace AssetMenu.Manifest

variable {manifest : Manifest}

/-- The type `derived` is declared, and `base` is the base that is found for it. -/
def HasBase (manifest : Manifest) (derived base : String) : Prop :=
  manifest.base? derived = some base

/-- Some declaration of `derived` names `base` as its base. -/
def Extends (manifest : Manifest) (derived base : String) : Prop :=
  ∃ declaration reference, (derived, declaration) ∈ manifest.types ∧
    declaration.base = some reference ∧ reference.name = base

theorem mem_names_of_hasBase {derived base : String} (hbase : manifest.HasBase derived base) :
    derived ∈ manifest.types.map Prod.fst := by
  obtain ⟨declaration, hdeclaration, -⟩ := Option.bind_eq_some_iff.mp hbase
  obtain ⟨before, after, htypes, -⟩ := List.lookup_eq_some_iff.mp hdeclaration
  simp [htypes]

theorem declaration?_eq_some_iff (hnames : (manifest.types.map Prod.fst).Nodup)
    {name : String} {declaration : TypeDeclaration} :
    manifest.declaration? name = some declaration ↔ (name, declaration) ∈ manifest.types := by
  rw [declaration?, List.lookup_eq_some_iff]
  constructor
  · rintro ⟨before, after, htypes, -⟩
    simp [htypes]
  · intro hmem
    obtain ⟨before, after, htypes⟩ := List.append_of_mem hmem
    refine ⟨before, after, htypes, ?_⟩
    intro entry hentry
    rw [htypes, List.map_append, List.nodup_append] at hnames
    have hne := hnames.2.2 entry.1 (List.mem_map_of_mem hentry) name (by simp)
    simpa using Ne.symm hne

theorem eq_of_mem_types (hnames : (manifest.types.map Prod.fst).Nodup) {name : String}
    {left right : TypeDeclaration} (hleft : (name, left) ∈ manifest.types)
    (hright : (name, right) ∈ manifest.types) : left = right := by
  rw [← declaration?_eq_some_iff hnames] at hleft hright
  rw [hleft] at hright
  exact Option.some.inj hright

/-- Where no name is declared twice, the base that is found is the declared one. -/
theorem extends_iff_hasBase (hnames : (manifest.types.map Prod.fst).Nodup)
    {derived base : String} : manifest.Extends derived base ↔ manifest.HasBase derived base := by
  simp only [Extends, HasBase, base?, Option.bind_eq_some_iff, Option.map_eq_some_iff,
    declaration?_eq_some_iff hnames]
  constructor
  · rintro ⟨declaration, reference, hmem, href, rfl⟩
    exact ⟨declaration, hmem, reference, href, rfl⟩
  · rintro ⟨declaration, hmem, reference, href, rfl⟩
    exact ⟨declaration, reference, hmem, href, rfl⟩

theorem extends_eq_hasBase (hnames : (manifest.types.map Prod.fst).Nodup) :
    manifest.Extends = manifest.HasBase := by
  funext derived base
  exact propext (extends_iff_hasBase hnames)

/-! ## The walk without its bound -/

/-- The bases on the way up from a name, without those in `seen`. -/
inductive Climb (manifest : Manifest) : List String → String → List String → Prop
  | top {seen : List String} {name : String} :
      manifest.base? name = none → Climb manifest seen name []
  | back {seen : List String} {name base : String} :
      manifest.base? name = some base → base ∈ seen → Climb manifest seen name []
  | up {seen : List String} {name base : String} {bases : List String} :
      manifest.base? name = some base → base ∉ seen →
        Climb manifest (base :: seen) base bases → Climb manifest seen name (base :: bases)

/-- The state of a walk that came to `name` through `past`: no name was met twice,
all names left behind are declared, and the steps taken and those that are left
are as many as there are declarations. -/
structure OnTrail (manifest : Manifest) (bound : Nat) (past : List String) (name : String) :
    Prop where
  nodup : (name :: past).Nodup
  declared : ∀ earlier ∈ past, earlier ∈ manifest.types.map Prod.fst
  room : past.length + bound = manifest.types.length

namespace OnTrail

variable {bound : Nat} {past : List String} {name base : String}

theorem start (name : String) : OnTrail manifest manifest.types.length [] name :=
  ⟨List.nodup_singleton name, by simp, by simp⟩

theorem step (htrail : OnTrail manifest (bound + 1) past name)
    (hbase : manifest.base? name = some base) (hfresh : base ∉ name :: past) :
    OnTrail manifest bound (name :: past) base where
  nodup := List.nodup_cons.mpr ⟨hfresh, htrail.nodup⟩
  declared := List.forall_mem_cons.mpr ⟨mem_names_of_hasBase hbase, htrail.declared⟩
  room := by
    have hroom := htrail.room
    simp only [List.length_cons]
    omega

/-- A walk that has used up its bound has left all declared names behind, so it
stands at a name without a base. -/
theorem base?_eq_none (htrail : OnTrail manifest 0 past name) :
    manifest.base? name = none := by
  by_contra hbase
  obtain ⟨base, hbase⟩ := Option.ne_none_iff_exists'.mp hbase
  have hsubset : name :: past ⊆ manifest.types.map Prod.fst :=
    List.cons_subset.mpr ⟨mem_names_of_hasBase hbase, htrail.declared⟩
  have hlength := (htrail.nodup.subperm hsubset).length_le
  have hroom := htrail.room
  simp only [List.length_cons, List.length_map] at hlength
  omega

theorem climb_basesWithin (htrail : OnTrail manifest bound past name) :
    Climb manifest (name :: past) name
      (manifest.basesWithin bound (name :: past) name) := by
  induction bound generalizing past name with
  | zero => exact .top htrail.base?_eq_none
  | succ bound ih =>
      rw [basesWithin]
      split
      next hbase => exact .top hbase
      next base hbase =>
        split
        next hseen => exact .back hbase hseen
        next hfresh => exact .up hbase hfresh (ih (htrail.step hbase hfresh))

/-- The way back to `start` is the way up, closed by one more step. -/
theorem returnWithin_eq {start : String} (htrail : OnTrail manifest bound past name)
    (hstart : start ∈ name :: past) :
    manifest.returnWithin start bound (name :: past) name =
      let bases := manifest.basesWithin bound (name :: past) name
      if manifest.base? (bases.getLastD name) = some start then some (bases ++ [start])
      else none := by
  induction bound generalizing past name with
  | zero => simp [returnWithin, basesWithin, htrail.base?_eq_none]
  | succ bound ih =>
      cases hbase : manifest.base? name with
      | none => simp [returnWithin, basesWithin, hbase]
      | some base =>
          by_cases hclosed : base = start
          · subst base
            simp [returnWithin, basesWithin, hbase, hstart]
          by_cases hseen : base ∈ name :: past
          · simp [returnWithin, basesWithin, hbase, hclosed, hseen]
          · have hrest := ih (htrail.step hbase hseen) (List.mem_cons_of_mem _ hstart)
            simp only [returnWithin, basesWithin, hbase, hclosed, hseen, if_false, hrest]
            rw [List.getLastD_cons]
            split <;> simp

end OnTrail

theorem climb_ancestors (manifest : Manifest) (name : String) :
    Climb manifest [name] name (manifest.ancestors name) :=
  (OnTrail.start name).climb_basesWithin

theorem cycleThrough?_eq (manifest : Manifest) (start : String) :
    manifest.cycleThrough? start =
      if manifest.base? ((manifest.ancestors start).getLastD start) = some start then
        some (start :: manifest.ancestors start ++ [start])
      else none := by
  have hreturn : manifest.returnWithin start manifest.types.length [start] start =
      if manifest.base? ((manifest.ancestors start).getLastD start) = some start then
        some (manifest.ancestors start ++ [start])
      else none :=
    (OnTrail.start start).returnWithin_eq (List.mem_singleton.mpr rfl)
  rw [cycleThrough?, hreturn]
  split <;> rfl

/-! ## Where a walk leads -/

namespace Climb

variable {seen bases : List String} {name : String}

theorem not_mem_seen (hclimb : Climb manifest seen name bases) :
    ∀ base ∈ bases, base ∉ seen := by
  induction hclimb with
  | top => simp
  | back => simp
  | up _ hfresh _ ih =>
      rw [List.forall_mem_cons]
      refine ⟨hfresh, ?_⟩
      intro later hlater hseen
      exact ih later hlater (List.mem_cons_of_mem _ hseen)

theorem nodup (hclimb : Climb manifest seen name bases) : bases.Nodup := by
  induction hclimb with
  | top => exact List.nodup_nil
  | back => exact List.nodup_nil
  | up _ _ hrest ih =>
      refine List.nodup_cons.mpr ⟨fun hagain => ?_, ih⟩
      exact hrest.not_mem_seen _ hagain List.mem_cons_self

theorem isChain (hclimb : Climb manifest seen name bases) :
    (name :: bases).IsChain manifest.HasBase := by
  induction hclimb with
  | top => exact .singleton _
  | back => exact .singleton _
  | up hbase _ _ ih => exact .cons_cons hbase ih

theorem transGen (hclimb : Climb manifest seen name bases) :
    ∀ base ∈ bases, Relation.TransGen manifest.HasBase name base := by
  induction hclimb with
  | top => simp
  | back => simp
  | up hbase _ _ ih =>
      rw [List.forall_mem_cons]
      refine ⟨.single hbase, ?_⟩
      intro later hlater
      exact .head hbase (ih later hlater)

/-- No step leads out of what was met. -/
theorem closed (hclimb : Climb manifest seen name bases) {derived base : String}
    (hderived : derived ∈ name :: bases) (hbase : manifest.HasBase derived base) :
    base ∈ bases ∨ base ∈ seen := by
  induction hclimb with
  | top hnone =>
      obtain rfl := List.mem_singleton.mp hderived
      rw [HasBase, hnone] at hbase
      simp at hbase
  | back hback hseen =>
      obtain rfl := List.mem_singleton.mp hderived
      obtain rfl := Option.some.inj (hback.symm.trans hbase)
      exact Or.inr hseen
  | up hup _ _ ih =>
      rcases List.mem_cons.mp hderived with rfl | hlater
      · obtain rfl := Option.some.inj (hup.symm.trans hbase)
        exact Or.inl List.mem_cons_self
      · rcases ih hlater with hbases | hseen
        · exact Or.inl (List.mem_cons_of_mem _ hbases)
        · rcases List.mem_cons.mp hseen with rfl | hseen
          · exact Or.inl List.mem_cons_self
          · exact Or.inr hseen

/-- Only the last name that was met can have a base that was not met after it. -/
theorem eq_getLastD (hclimb : Climb manifest seen name bases) {derived base : String}
    (hderived : derived ∈ name :: bases) (hbase : manifest.HasBase derived base)
    (hnew : base ∉ bases) : derived = bases.getLastD name := by
  induction hclimb with
  | top => simpa using hderived
  | back => simpa using hderived
  | up hup _ _ ih =>
      rw [List.getLastD_cons]
      rcases List.mem_cons.mp hderived with rfl | hlater
      · obtain rfl := Option.some.inj (hup.symm.trans hbase)
        exact absurd List.mem_cons_self hnew
      · exact ih hlater fun hmem => hnew (List.mem_cons_of_mem _ hmem)

end Climb

theorem reaches_iff_mem_ancestors {name base : String} :
    Relation.ReflTransGen manifest.HasBase name base ↔
      base ∈ name :: manifest.ancestors name := by
  have hclimb := climb_ancestors manifest name
  constructor
  · intro hreaches
    induction hreaches with
    | refl => exact List.mem_cons_self
    | tail _ hbase ih =>
        rcases hclimb.closed ih hbase with hmem | hstart
        · exact List.mem_cons_of_mem _ hmem
        · exact List.mem_cons.mpr (Or.inl (List.mem_singleton.mp hstart))
  · intro hmem
    rcases List.mem_cons.mp hmem with rfl | hmem
    · exact .refl
    · exact (hclimb.transGen base hmem).to_reflTransGen

/-- The ancestors of a type are all the names that it leads to, other than its
own. -/
theorem mem_ancestors_iff {name base : String} :
    base ∈ manifest.ancestors name ↔
      Relation.TransGen manifest.HasBase name base ∧ base ≠ name := by
  have hclimb := climb_ancestors manifest name
  constructor
  · intro hmem
    exact ⟨hclimb.transGen base hmem, fun heq =>
      hclimb.not_mem_seen base hmem (List.mem_singleton.mpr heq)⟩
  · rintro ⟨htrans, hne⟩
    have hmem := reaches_iff_mem_ancestors.mp htrans.to_reflTransGen
    exact (List.mem_cons.mp hmem).resolve_left hne

/-- A cycle is reported from a name exactly if the name leads back to itself. -/
theorem cycleThrough?_eq_none_iff {start : String} :
    manifest.cycleThrough? start = none ↔
      ¬ Relation.TransGen manifest.HasBase start start := by
  have hclimb := climb_ancestors manifest start
  rw [cycleThrough?_eq]
  simp only [ite_eq_right_iff, reduceCtorEq, imp_false]
  refine not_congr ⟨fun hlast => ?_, fun hcycle => ?_⟩
  · refine Relation.TransGen.tail' (reaches_iff_mem_ancestors.mpr ?_) hlast
    exact List.getLastD_mem_cons
  · obtain ⟨last, hreaches, hbase⟩ := Relation.TransGen.tail'_iff.mp hcycle
    have hmem := reaches_iff_mem_ancestors.mp hreaches
    have hlast := hclimb.eq_getLastD hmem hbase fun hagain =>
      hclimb.not_mem_seen start hagain List.mem_cons_self
    rw [← hlast]
    exact hbase

end AssetMenu.Manifest
