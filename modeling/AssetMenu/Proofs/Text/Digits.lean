/-!
# Reading numbers

A number is written with its decimal digits, behind a sign if it is negative.  What
is written is read back, and it has no line end within.
-/

namespace AssetMenu.Text

/-- The number that digits stand for. -/
def natural (digits : List Char) : Nat :=
  Nat.ofDigitChars 10 digits 0

/-- The number that digits stand for, which may have a sign in front. -/
def integer : List Char → Int
  | '-' :: digits => -(natural digits : Int)
  | digits => natural digits

theorem natural_repr (n : Nat) : natural n.repr.toList = n := by
  rw [natural, Nat.toList_repr, Nat.ofDigitChars_ten_toDigits]

/-- A character that is no digit is not among the digits of a number. -/
theorem not_mem_toDigits {c : Char} (hc : c.isDigit = false) (n : Nat) :
    c ∉ Nat.toDigits 10 n := by
  intro hmem
  have hdigit := Nat.isDigit_of_mem_toDigits (by decide) (by decide) hmem
  rw [hc] at hdigit
  contradiction

/-- The digits of a number do not begin with a sign. -/
theorem integer_repr_natural (n : Nat) : integer n.repr.toList = n := by
  have hsign : '-' ∉ Nat.toDigits 10 n := not_mem_toDigits rfl n
  have hnatural := natural_repr n
  rw [Nat.toList_repr] at hnatural
  rw [Nat.toList_repr]
  unfold integer
  split
  next digits hdigits => simp [hdigits] at hsign
  next => rw [hnatural]

theorem integer_repr (value : Int) : integer value.repr.toList = value := by
  rw [Int.repr_eq_if]
  split
  next hsign =>
    rw [integer_repr_natural]
    omega
  next hsign =>
    have hdigits : ("-" ++ (-value).toNat.repr).toList = '-' :: (-value).toNat.repr.toList := by
      simp
    rw [hdigits, integer, natural_repr]
    omega

/-- A number other than zero has no zero in front. -/
theorem head?_toDigits {n : Nat} (hn : 0 < n) : (Nat.toDigits 10 n).head? ≠ some '0' := by
  induction n using Nat.strongRecOn with
  | ind n ih =>
      by_cases hsmall : n < 10
      · have hall : ∀ digit < 10, 0 < digit → some digit.digitChar ≠ some '0' := by decide
        rw [Nat.toDigits_of_lt_base hsmall, List.head?_cons]
        exact hall n hsmall hn
      · rw [Nat.toDigits_of_base_le (by decide) (Nat.le_of_not_lt hsmall), List.head?_append,
          List.head?_eq_some_head Nat.toDigits_ne_nil, Option.some_or,
          ← List.head?_eq_some_head]
        exact ih (n / 10) (by omega) (by omega)

/-- A number is written with its digits, behind a sign if it is negative. -/
theorem exists_toList_repr_eq (value : Int) :
    (∃ n : Nat, value = n ∧ value.repr.toList = Nat.toDigits 10 n) ∨
      ∃ n : Nat, value = -n ∧ value.repr.toList = '-' :: Nat.toDigits 10 n := by
  rw [Int.repr_eq_if]
  split
  next hsign => exact Or.inl ⟨value.toNat, by omega, by simp⟩
  next hsign => exact Or.inr ⟨(-value).toNat, by omega, by simp⟩

theorem isDigit_of_mem_tail_repr {value : Int} {c : Char} (hc : c ∈ value.repr.toList.tail) :
    c.isDigit = true := by
  rcases exists_toList_repr_eq value with ⟨n, -, htext⟩ | ⟨n, -, htext⟩ <;> rw [htext] at hc
  · exact Nat.isDigit_of_mem_toDigits (by decide) (by decide) (List.mem_of_mem_tail hc)
  · exact Nat.isDigit_of_mem_toDigits (by decide) (by decide) hc

theorem eq_sign_or_isDigit_of_mem_repr {value : Int} {c : Char} (hc : c ∈ value.repr.toList) :
    c = '-' ∨ c.isDigit = true := by
  rcases exists_toList_repr_eq value with ⟨n, -, htext⟩ | ⟨n, -, htext⟩ <;> rw [htext] at hc
  · exact Or.inr (Nat.isDigit_of_mem_toDigits (by decide) (by decide) hc)
  · apply (List.mem_cons.mp hc).imp_right
    exact Nat.isDigit_of_mem_toDigits (by decide) (by decide)

theorem newline_not_mem_toDigits (n : Nat) : '\n' ∉ Nat.toDigits 10 n :=
  not_mem_toDigits rfl n

theorem newline_not_mem_repr (value : Int) : '\n' ∉ value.repr.toList := by
  rw [Int.repr_eq_if]
  split <;> simp [newline_not_mem_toDigits]

end AssetMenu.Text
