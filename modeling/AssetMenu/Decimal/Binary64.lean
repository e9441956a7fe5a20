/-!
# Double precision numbers

A finite number of the format is `significand * 2 ^ exponent` with a significand
below `2 ^ 53` and an exponent of at least -1074.  A decimal numeral denotes the
number of the format that is nearest to it, where a tie goes to the even
significand.  In the other direction a number is shown by the decimal numeral
with the fewest digits that still denotes it.  Everything is computed on natural
numbers, so nothing is lost to rounding.
-/

namespace AssetMenu.Decimal

/-- The number `significand * 2 ^ exponent`. -/
structure Binary64 where
  significand : Nat
  exponent : Int
  deriving DecidableEq, Repr

namespace Binary64

/-- Smallest exponent of the format. -/
def minExponent : Int := -1074

/-- `num / den` rounded to the nearest integer, a tie to the even one. -/
def roundHalfEven (num den : Nat) : Nat :=
  let q := num / den
  let r := num % den
  if 2 * r < den then q
  else if den < 2 * r then q + 1
  else if q % 2 = 0 then q else q + 1

/-- `num / den` divided by `2 ^ exponent` and rounded. -/
def scaled (num den : Nat) (exponent : Int) : Nat :=
  if 0 ≤ exponent then roundHalfEven num (den * Nat.pow 2 exponent.toNat)
  else roundHalfEven (num * Nat.pow 2 (-exponent).toNat) den

/-- The number nearest to `num / den`, if it is not too large. -/
def nearest (num den : Nat) : Option Binary64 :=
  if num = 0 then some ⟨0, minExponent⟩
  else
    let guess := (Nat.log2 num : Int) - (Nat.log2 den : Int) - 53
    let low := max guess minExponent
    let exponent := if scaled num den low < Nat.pow 2 53 then low else low + 1
    let significand := scaled num den exponent
    let value : Binary64 :=
      if significand = Nat.pow 2 53 then ⟨Nat.pow 2 52, exponent + 1⟩
      else ⟨significand, exponent⟩
    if value.exponent ≤ 971 then some value else none

/-- The number nearest to `digits * 10 ^ power`, if it is not too large.  Powers
far outside the range of the format are decided without being computed. -/
def ofDecimal (digits : Nat) (power : Int) : Option Binary64 :=
  let width : Int := (Nat.toDigits 10 digits).length
  if digits = 0 ∨ width + power < -400 then some ⟨0, minExponent⟩
  else if 400 < width + power then none
  else if 0 ≤ power then nearest (digits * Nat.pow 10 power.toNat) 1
  else nearest digits (Nat.pow 10 (-power).toNat)

/-- A decimal numeral `digits * 10 ^ power`. -/
structure Numeral where
  digits : Nat
  power : Int
  deriving DecidableEq, Repr

/-- The numerals on the grid of step `10 ^ power` next to `num / den`, the nearer
one first; halfway between them the upper one comes first. -/
def neighbours (num den : Nat) (power : Int) : List Numeral :=
  let (n, d) :=
    if 0 ≤ power then (num, den * Nat.pow 10 power.toNat)
    else (num * Nat.pow 10 (-power).toNat, den)
  let below := n / d
  if 2 * (n % d) < d then [⟨below, power⟩, ⟨below + 1, power⟩]
  else [⟨below + 1, power⟩, ⟨below, power⟩]

/-- The numeral with the fewest digits that denotes `value`, and among those the
nearest one. -/
def shortest (value : Binary64) : Numeral :=
  if value.significand = 0 then ⟨0, 0⟩
  else
    let (num, den) :=
      if 0 ≤ value.exponent then (value.significand * Nat.pow 2 value.exponent.toNat, 1)
      else (value.significand, Nat.pow 2 (-value.exponent).toNat)
    let width : Int :=
      if den ≤ num then (Nat.toDigits 10 (num / den)).length
      else 1 - (Nat.toDigits 10 (den / num)).length
    let grids := (List.range 19).map fun (n : Nat) => width + 1 - (n : Int)
    let candidates := grids.flatMap (neighbours num den)
    (candidates.find? fun c => ofDecimal c.digits c.power == some value).getD ⟨0, 0⟩

/-- A numeral without an exponent: a decimal point, digits on both of its sides,
and no digit that could be left out. -/
def Numeral.text (numeral : Numeral) : String :=
  let digits := Nat.toDigits 10 numeral.digits
  if 0 ≤ numeral.power then
    String.ofList (digits ++ List.replicate numeral.power.toNat '0') ++ ".0"
  else
    let places := (-numeral.power).toNat
    let filled := List.replicate (places + 1 - digits.length) '0' ++ digits
    let whole := filled.take (filled.length - places)
    let fraction := filled.drop (filled.length - places)
    let trimmed := (fraction.reverse.dropWhile (· == '0')).reverse
    String.ofList whole ++ "." ++ (if trimmed.isEmpty then "0" else String.ofList trimmed)

/-- The shortest text that denotes `value`, written without an exponent. -/
def text (value : Binary64) : String :=
  (shortest value).text

end Binary64

end AssetMenu.Decimal
