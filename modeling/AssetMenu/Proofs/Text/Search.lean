import AssetMenu.Text.Search

/-!
# What a search finds

A search finds nothing exactly if the pattern occurs nowhere.  Otherwise it finds the occurrence
that has least before it, where the texts before two occurrences are prefixes of each other.
-/

namespace AssetMenu.Text

variable {pattern text front : List Char}

/-- The pattern occurs in the text behind `front`. -/
def Occurs (pattern text front : List Char) : Prop :=
  ∃ rest, text = front ++ (pattern ++ rest)

theorem occurs_nil_iff : Occurs pattern text [] ↔ pattern <+: text :=
  ⟨fun ⟨rest, htext⟩ => ⟨rest, htext.symm⟩, fun ⟨rest, htext⟩ => ⟨rest, htext.symm⟩⟩

theorem occurs_cons_iff {c d : Char} :
    Occurs pattern (c :: text) (d :: front) ↔ d = c ∧ Occurs pattern text front := by
  simp only [Occurs, List.cons_append, List.cons.injEq, exists_and_left, eq_comm]

theorem not_occurs_cons {c : Char} : ¬ Occurs pattern [] (c :: front) := by
  rintro ⟨rest, htext⟩
  simp at htext

/-- The pattern occurs behind `front`, and nowhere with less before it. -/
structure Leftmost (pattern text front : List Char) : Prop where
  occurs : Occurs pattern text front
  isPrefix : ∀ other, Occurs pattern text other → front <+: other

theorem leftmost_of_before? (hfound : before? pattern text = some front) :
    Leftmost pattern text front := by
  induction text generalizing front with
  | nil =>
      rw [before?] at hfound
      split at hfound
      next hempty =>
        obtain rfl := Option.some.inj hfound
        obtain rfl := List.isEmpty_iff.mp hempty
        exact ⟨occurs_nil_iff.mpr List.nil_prefix, fun other _ => List.nil_prefix⟩
      next => simp at hfound
  | cons c text ih =>
      rw [before?] at hfound
      split at hfound
      next hprefix =>
        obtain rfl := Option.some.inj hfound
        exact ⟨occurs_nil_iff.mpr (List.isPrefixOf_iff_prefix.mp hprefix),
          fun other _ => List.nil_prefix⟩
      next hprefix =>
        obtain ⟨inner, hinner, rfl⟩ := Option.map_eq_some_iff.mp hfound
        have hleftmost := ih hinner
        refine ⟨occurs_cons_iff.mpr ⟨rfl, hleftmost.occurs⟩, fun other hother => ?_⟩
        cases other with
        | nil => exact absurd (List.isPrefixOf_iff_prefix.mpr (occurs_nil_iff.mp hother)) hprefix
        | cons d other =>
            obtain ⟨rfl, hbehind⟩ := occurs_cons_iff.mp hother
            exact List.cons_prefix_cons.mpr ⟨rfl, hleftmost.isPrefix other hbehind⟩

theorem not_occurs_of_before? (hnone : before? pattern text = none) (front : List Char) :
    ¬ Occurs pattern text front := by
  induction text generalizing front with
  | nil =>
      cases front with
      | nil =>
          rw [occurs_nil_iff, List.prefix_nil]
          rintro rfl
          simp [before?] at hnone
      | cons d front => exact not_occurs_cons
  | cons c text ih =>
      rw [before?] at hnone
      split at hnone
      next => simp at hnone
      next hprefix =>
        cases front with
        | nil => rwa [occurs_nil_iff, ← List.isPrefixOf_iff_prefix]
        | cons d front =>
            rw [occurs_cons_iff, not_and]
            exact fun _ => ih (Option.map_eq_none_iff.mp hnone) front

theorem before?_eq_none_iff :
    before? pattern text = none ↔ ∀ front, ¬ Occurs pattern text front := by
  constructor
  · exact not_occurs_of_before?
  · intro hnowhere
    cases hfound : before? pattern text with
    | none => rfl
    | some front => exact absurd (leftmost_of_before? hfound).occurs (hnowhere front)

end AssetMenu.Text
