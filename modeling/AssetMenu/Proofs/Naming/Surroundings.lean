import AssetMenu.Proofs.Naming.Outcomes

/-!
# Texts around all names

The texts that a run puts around every name decide nothing.  A run with them goes hand in
hand with a run without: at any time the same texts are taken to be named after, and the
names that are taken are those of the other run with the texts around them.  Since names
that differ still differ then, a candidate meets the same refusals in both runs.
-/

namespace AssetMenu

variable (affixes : Affixes)

/-- A text with the affixes around it. -/
def Affixes.around (text : String) : String :=
  affixes.before ++ text ++ affixes.after

theorem Affixes.around_injective : Function.Injective affixes.around := by
  intro left right hsame
  rw [around, around, String.append_left_inj, String.append_right_inj] at hsame
  exact hsame

/-- The same entry, with the texts around its name. -/
def Resolved.within (named : Resolved) : Resolved :=
  { named with identifier := affixes.around named.identifier }

/-- The same resolution, with the texts around all names. -/
def Resolution.within (resolution : Resolution) : Resolution :=
  { resolution with resolved := resolution.resolved.map (Resolved.within affixes) }

namespace Naming

/-- What is taken in the run that puts the texts around the names. -/
def Taken.within (taken : Taken) : Taken :=
  { taken with identifiers := taken.identifiers.map affixes.around }

variable (taken : Taken) (candidate : Candidate)

theorem compose_eq_around (base : String) :
    compose affixes candidate base = affixes.around (compose Affixes.none candidate base) := by
  simp only [compose, Affixes.around, Affixes.none, String.empty_append, String.append_empty,
    String.append_assoc]

theorem compose_mem_within_iff (base : String) :
    compose affixes candidate base ∈ (taken.within affixes).identifiers ↔
      compose Affixes.none candidate base ∈ taken.identifiers := by
  rw [compose_eq_around]
  exact List.mem_map_of_injective affixes.around_injective

/-- The same form is chosen, for what is refused to one run is refused to the other. -/
theorem choice?_within :
    choice? affixes (taken.within affixes) candidate =
      (choice? Affixes.none taken candidate).map (Prod.map id affixes.around) := by
  rw [choice?, choice?, List.map_findSome?]
  congr 1
  funext base
  have hbases : base ∈ (taken.within affixes).bases ↔ base ∈ taken.bases := Iff.rfl
  simp only [Function.comp_apply, hbases, compose_mem_within_iff]
  split
  · rfl
  · rw [compose_eq_around]
    rfl

/-- One step of the two runs. -/
theorem resolve?_within :
    resolve? affixes (taken.within affixes) candidate =
      (resolve? Affixes.none taken candidate).map
        (Prod.map (Resolved.within affixes) (Taken.within affixes)) := by
  rw [resolve?, resolve?, choice?_within, Option.map_map, Option.map_map]
  rfl

/-- The two runs from any time on. -/
theorem resolveFrom_within (candidates : List Candidate) :
    resolveFrom affixes (taken.within affixes) candidates =
      (resolveFrom Affixes.none taken candidates).within affixes := by
  induction candidates generalizing taken with
  | nil => rfl
  | cons candidate rest ih =>
      rw [resolveFrom, resolveFrom, resolve?_within]
      cases resolve? Affixes.none taken candidate with
      | none =>
          simp only [Option.map_none, ih]
          rfl
      | some served =>
          simp only [Option.map_some, Prod.map, ih]
          rfl

/-- The two runs as a whole. -/
theorem resolveAll_eq_within (candidates : List Candidate) :
    resolveAll affixes candidates = (resolveAll Affixes.none candidates).within affixes :=
  resolveFrom_within affixes Taken.none candidates

end Naming

end AssetMenu
