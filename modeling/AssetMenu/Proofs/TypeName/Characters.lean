import AssetMenu.Proofs.Text.Fields
import AssetMenu.TypeName
import Mathlib.Data.List.TakeWhile

/-!
# The characters of a type name

A type name is made of characters that may stand in an identifier, of the separators
of its segments, and of the marks in front of numbers of type parameters.  What is
derived from a name has no characters that the name does not have, but for the dots in
place of other separators.  Program text refers to a type by the same segments, which
are identifiers unless there is such a mark in the name.
-/

namespace AssetMenu

open Text

namespace TypeName

variable {cs : List Char} {c : Char}

theorem isIdentifierPart_of_isDigit (hdigit : c.isDigit = true) : isIdentifierPart c = true := by
  have hascii : c.toNat < 128 := by
    have hbound := (Char.isDigit_iff_toNat.mp hdigit).2
    exact Nat.lt_of_le_of_lt hbound (by decide)
  simp [isIdentifierPart, isAlphanumeric, isNumber_of_ascii hascii, hdigit]

theorem isIdentifierPart_of_mem_identifier (hcs : isIdentifier cs = true) (hc : c ∈ cs) :
    isIdentifierPart c = true := by
  cases cs with
  | nil => contradiction
  | cons first rest =>
      rw [isIdentifier, Bool.and_eq_true] at hcs
      rcases List.mem_cons.mp hc with rfl | hrest
      · have hstart := hcs.1
        rw [isIdentifierStart, Bool.or_eq_true] at hstart
        rcases hstart with hletter | hunderscore
        · simp [isIdentifierPart, isAlphanumeric, hletter]
        · simp [isIdentifierPart, hunderscore]
      · exact List.all_eq_true.mp hcs.2 c hrest

/-- What stands before the mark of a segment is an identifier, and what stands behind it are
digits. -/
theorem mem_of_isSegment (hcs : isSegment cs = true) (hc : c ∈ cs) :
    c = arityMark ∨ isIdentifierPart c = true := by
  obtain ⟨hidentifier, harity⟩ := Bool.and_eq_true_iff.mp hcs
  have hmark := List.head?_dropWhile_not (· != arityMark) cs
  rw [← List.takeWhile_append_dropWhile (p := (· != arityMark)) (l := cs), List.mem_append] at hc
  rcases hc with hbefore | hbehind
  · exact Or.inr (isIdentifierPart_of_mem_identifier hidentifier hbefore)
  · cases hrest : cs.dropWhile (· != arityMark) with
    | nil => simp [hrest] at hbehind
    | cons mark digits =>
        rw [hrest] at hbehind harity hmark
        rcases List.mem_cons.mp hbehind with rfl | hdigit
        · exact Or.inl (by simpa using hmark)
        · have hdigits := (Bool.and_eq_true_iff.mp harity).2
          exact Or.inr (isIdentifierPart_of_isDigit (List.all_eq_true.mp hdigits c hdigit))

theorem mem_of_isQualified (hcs : isQualified cs = true) (hc : c ∈ cs) :
    isSeparator c = true ∨ c = arityMark ∨ isIdentifierPart c = true := by
  cases hseparator : isSeparator c with
  | true => exact Or.inl rfl
  | false =>
      obtain ⟨segment, hsegment, hmem⟩ := exists_mem_fields_iff.mpr ⟨hc, hseparator⟩
      exact Or.inr (mem_of_isSegment (List.all_eq_true.mp hcs segment hsegment) hmem)

/-- The mark is all that sets a segment apart from an identifier. -/
theorem isIdentifier_iff_of_isSegment (hcs : isSegment cs = true) :
    isIdentifier cs = true ↔ arityMark ∉ cs := by
  constructor
  · intro hidentifier hmark
    have hpart := isIdentifierPart_of_mem_identifier hidentifier hmark
    exact absurd hpart (by decide +kernel)
  · intro hmark
    have hbefore : cs.takeWhile (· != arityMark) = cs :=
      List.takeWhile_eq_self_iff.mpr fun c hc => bne_iff_ne.mpr fun hsame => hmark (hsame ▸ hc)
    have hidentifier := (Bool.and_eq_true_iff.mp hcs).1
    rwa [hbefore] at hidentifier

theorem forall_isIdentifier_iff (hcs : isQualified cs = true) :
    (∀ segment ∈ segments cs, isIdentifier segment = true) ↔ arityMark ∉ cs := by
  have hmark : arityMark ∈ cs ↔ ∃ segment ∈ segments cs, arityMark ∈ segment := by
    have hseparator : isSeparator arityMark = false := by decide
    rw [segments, exists_mem_fields_iff, hseparator]
    simp
  have hsegments := List.all_eq_true.mp hcs
  rw [hmark, not_exists]
  refine forall_congr' fun segment => ?_
  rw [not_and]
  exact forall_congr' fun hmem => isIdentifier_iff_of_isSegment (hsegments segment hmem)

/-- With dots in place of all separators, a name has the same segments. -/
theorem fields_dotted (cs : List Char) : fields (· == '.') (dotted cs) = segments cs := by
  have hcut (c : Char) : ((if c == '+' then '.' else c) == '.') = isSeparator c := by
    by_cases hplus : c = '+' <;> simp [isSeparator, hplus]
  have hkept : ∀ segment ∈ segments cs,
      segment.map (fun c => if c == '+' then '.' else c) = segment := by
    intro segment hsegment
    refine (List.map_congr_left ?_).trans (List.map_id segment)
    intro c hc
    have hseparator := (exists_mem_fields_iff.mp ⟨segment, hsegment, hc⟩).2
    have hplus : (c == '+') = false := (Bool.or_eq_false_iff.mp hseparator).2
    simp [hplus]
  rw [dotted, fields_map hcut, ← segments, List.map_congr_left hkept, List.map_id']

theorem plus_not_mem_dotted (cs : List Char) : '+' ∉ dotted cs := by
  rw [dotted, List.mem_map]
  rintro ⟨c, -, hplus⟩
  split at hplus
  next => exact absurd hplus (by decide)
  next hother => exact hother (beq_iff_eq.mpr hplus)

theorem lastSegment_mem_segments (cs : List Char) : lastSegment cs ∈ segments cs := by
  have hne : segments cs ≠ [] := fields_ne_nil isSeparator cs
  rw [lastSegment, List.getLast?_eq_some_getLast hne, Option.getD_some]
  exact List.getLast_mem hne

theorem mem_of_mem_lastSegment (hc : c ∈ lastSegment cs) : c ∈ cs :=
  (exists_mem_fields_iff.mp ⟨_, lastSegment_mem_segments cs, hc⟩).1

end TypeName

variable {name : String} {c : Char}

theorem mem_of_mem_simpleName (hc : c ∈ (simpleName name).toList) : c ∈ name.toList := by
  rw [simpleName, String.toList_ofList] at hc
  exact TypeName.mem_of_mem_lastSegment hc

theorem mem_of_mem_sourceName (hdot : c ≠ '.') (hc : c ∈ (sourceName name).toList) :
    c ∈ name.toList := by
  rw [sourceName, String.toList_ofList, TypeName.dotted, List.mem_map] at hc
  obtain ⟨original, hmem, heq⟩ := hc
  split at heq
  next => exact absurd heq.symm hdot
  next => exact heq ▸ hmem

end AssetMenu
