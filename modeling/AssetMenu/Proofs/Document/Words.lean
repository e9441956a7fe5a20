import AssetMenu.Document.Scalar
import AssetMenu.Proofs.Text.Digits
import AssetMenu.Proofs.Text.Fields
import Mathlib.Data.List.Basic
import Mathlib.Data.Option.Basic

/-!
# Words are read back

A word that a line end follows is taken as a whole.  The decimal form of an integer is
such a word: behind its first character it has digits only, so it is no date and no truth
value, and no zero stands in front of it, so it is read as the integer.
-/

namespace AssetMenu.Document

open Text

/-! ## Decimal integers -/

namespace Number

theorem whole?_toDigits (n : Nat) : whole? (Nat.toDigits 10 n) = some (Nat.toDigits 10 n) := by
  have hfields : fields (· == '_') (Nat.toDigits 10 n) = [Nat.toDigits 10 n] := by
    apply fields_eq_singleton
    intro c hc
    rw [beq_eq_false_iff_ne]
    rintro rfl
    exact not_mem_toDigits rfl n hc
  have hdigits : (Nat.toDigits 10 n).all Char.isDigit = true :=
    List.all_eq_true.mpr fun c hc => Nat.isDigit_of_mem_toDigits (by decide) (by decide) hc
  have hzero : (Nat.toDigits 10 n).head? ≠ some '0' ∨ (Nat.toDigits 10 n).length = 1 := by
    rcases Nat.eq_zero_or_pos n with rfl | hn
    · exact Or.inr rfl
    · exact Or.inl (head?_toDigits hn)
  simp [whole?, digits?, hfields, hdigits, Nat.toDigits_ne_nil, guard, hzero]

theorem value_toDigits (n : Nat) : value 10 (Nat.toDigits 10 n) = n := by
  calc
    value 10 (Nat.toDigits 10 n) = Nat.ofDigitChars 10 (Nat.toDigits 10 n) 0 := by
      apply List.foldl_ext
      intro sofar c hc
      have hdigit := Nat.isDigit_of_mem_toDigits (by decide) (by decide) hc
      simp [digitValue, hdigit]
    _ = n := Nat.ofDigitChars_ten_toDigits

theorem decimal?_toDigits (n : Nat) : decimal? (Nat.toDigits 10 n) = some (some n) := by
  simp [decimal?, whole?_toDigits, value_toDigits]

theorem signed_toDigits (n : Nat) :
    signed (Nat.toDigits 10 n) = (false, Nat.toDigits 10 n) := by
  unfold signed
  split
  next hdigits => exact absurd (hdigits ▸ List.mem_cons_self) (not_mem_toDigits (c := '-') rfl n)
  next hdigits => exact absurd (hdigits ▸ List.mem_cons_self) (not_mem_toDigits (c := '+') rfl n)
  next => rfl

theorem integer?_repr (value : Int) : integer? value.repr.toList = some (some value) := by
  -- A mark of another base would stand behind the first character.
  have hmark : ∀ c, c.isDigit = false → c ∉ value.repr.toList.tail := fun c hc hmem =>
    Bool.false_ne_true (hc.symm.trans (isDigit_of_mem_tail_repr hmem))
  unfold integer?
  split
  next htext => exact absurd (by simp [htext]) (hmark 'x' rfl)
  next htext => exact absurd (by simp [htext]) (hmark 'o' rfl)
  next htext => exact absurd (by simp [htext]) (hmark 'b' rfl)
  next =>
    rcases exists_toList_repr_eq value with ⟨n, rfl, htext⟩ | ⟨n, rfl, htext⟩
    · simp [htext, signed_toDigits, decimal?_toDigits]
    · simp [htext, signed, decimal?_toDigits]

end Number

theorem DateTime.ofText?_eq_none {cs : List Char} (hcs : ∀ c ∈ cs.tail, c.isDigit = true) :
    DateTime.ofText? cs = none := by
  have hdate : date? cs = none := by
    unfold date?
    split
    next => simpa using hcs '-'
    next => rfl
  have htime : time? cs = none := by
    unfold time?
    split
    next => simpa using hcs ':'
    next => rfl
  simp [ofText?, hdate, htime]

/-! ## Words before a line end -/

namespace Scalar

variable {word : List Char} {value : Scalar}

theorem wordOf_append (hword : ∀ c ∈ word, isWordChar c = true) (rest : List Char) :
    wordOf (word ++ '\n' :: rest) = word := by
  induction word with
  | nil => rfl
  | cons c word ih =>
      obtain ⟨hfirst, hmore⟩ := List.forall_mem_cons.mp hword
      simp [wordOf, hfirst, ih hmore]

/-- Characters of words that are not taken for quoted texts. -/
def isUnquoted (c : Char) : Bool :=
  isWordChar c && c != '"' && c != '\''

theorem isUnquoted_iff {c : Char} :
    isUnquoted c = true ↔ isWordChar c = true ∧ c ≠ '"' ∧ c ≠ '\'' := by
  simp [isUnquoted, and_assoc]

/-- A word with a value is read as that value. -/
theorem read_word (hword : ∀ c ∈ word, isUnquoted c = true)
    (hvalue : ofWord? word = some value) (rest : List Char) (offset : Nat) :
    read ⟨word ++ '\n' :: rest, offset⟩ =
      some (value, ⟨'\n' :: rest, offset + byteCount word⟩) := by
  simp only [isUnquoted_iff] at hword
  have htaken := wordOf_append (fun c hc => (hword c hc).1) rest
  unfold read
  split
  next => cases word <;> simp_all
  next => cases word <;> simp_all
  next => simp [readWord, htaken, hvalue]

theorem isWordChar_of_isDigit {c : Char} (hdigit : c.isDigit = true) : isWordChar c = true := by
  have hnone : "=,[]\x7b\x7d# \t\r\n".toList.any Char.isDigit = false := rfl
  rw [isWordChar, Bool.not_eq_true', ← Bool.not_eq_true, List.contains_iff_mem]
  intro hmem
  exact List.any_eq_false.mp hnone c hmem hdigit

theorem isUnquoted_of_mem_repr {n : Int} {c : Char} (hc : c ∈ n.repr.toList) :
    isUnquoted c = true := by
  rcases eq_sign_or_isDigit_of_mem_repr hc with rfl | hdigit
  · rfl
  · refine isUnquoted_iff.mpr ⟨isWordChar_of_isDigit hdigit, ?_, ?_⟩ <;> rintro rfl <;>
      contradiction

theorem ofWord?_repr (n : Int) : ofWord? n.repr.toList = some (.integer (some n)) := by
  have hdigits : ∀ c ∈ n.repr.toList.tail, c.isDigit = true := fun _ => isDigit_of_mem_tail_repr
  have htrue : n.repr.toList ≠ "true".toList := fun htext => by
    rw [htext] at hdigits
    exact absurd (hdigits 'r' (by decide)) (by decide)
  have hfalse : n.repr.toList ≠ "false".toList := fun htext => by
    rw [htext] at hdigits
    exact absurd (hdigits 'a' (by decide)) (by decide)
  rw [ofWord?, if_neg htrue, if_neg hfalse, DateTime.ofText?_eq_none hdigits,
    Number.integer?_repr]
  rfl

end Scalar

end AssetMenu.Document
