import AssetMenu.Decimal.Binary64
import AssetMenu.Text.Fields

/-!
# Numbers of a document

Integers are written in decimal, or behind `0x`, `0o` or `0b` in another base;
numbers with a fraction or an exponent are written in decimal.  Single
underscores may part the digits, and a decimal integer has no superfluous zero
in front.  Two kinds of words are admitted as integers and denote no number: a
base mark with no digits behind it, and a decimal integer in which characters
other than digits stand behind an underscore.
-/

namespace AssetMenu.Document

open Text Decimal

/-- A number with a fraction or an exponent, infinity, or no number. -/
inductive Fractional where
  | finite (negative : Bool) (digits : Nat) (power : Int)
  | infinite (negative : Bool)
  | nan
  deriving DecidableEq, Repr

/-- The value of a numeral in double precision, as a message shows it.  None if
it is too large. -/
def Fractional.text? : Fractional → Option String
  | .nan => some "NaN"
  | .infinite negative => some (if negative then "-inf" else "inf")
  | .finite negative digits power =>
      (Binary64.ofDecimal digits power).map fun value =>
        (if negative then "-" else "") ++ value.text

namespace Number

/-- The digits of a numeral without the underscores that part them.  Every group
between underscores must hold digits only, and at least one. -/
def digits? (isDigit : Char → Bool) (cs : List Char) : Option (List Char) :=
  let groups := fields (· == '_') cs
  if groups.all fun group => !group.isEmpty && group.all isDigit then some groups.flatten
  else none

/-- Value of a digit in a base up to sixteen. -/
def digitValue (c : Char) : Nat :=
  if c.isDigit then c.toNat - 48 else c.toLower.toNat - 87

/-- Value of a row of digits. -/
def value (base : Nat) (digits : List Char) : Nat :=
  digits.foldl (fun n c => base * n + digitValue c) 0

/-- Is `c` a digit of a base up to sixteen? -/
def isDigitOf (base : Nat) (c : Char) : Bool :=
  (c.isDigit || ('a' ≤ c && c ≤ 'f') || ('A' ≤ c && c ≤ 'F')) && digitValue c < base

/-- Split off a sign: is it a minus, and what follows. -/
def signed (cs : List Char) : Bool × List Char :=
  match cs with
  | '-' :: rest => (true, rest)
  | '+' :: rest => (false, rest)
  | _ => (false, cs)

/-- Does an exponent follow `c`? -/
def isExponentMark (c : Char) : Bool :=
  c == 'e' || c == 'E'

/-- The digits of a decimal integer without a sign: a zero in front stands
alone. -/
def whole? (cs : List Char) : Option (List Char) := do
  let digits ← digits? Char.isDigit cs
  guard (digits.head? ≠ some '0' ∨ digits.length = 1)
  some digits

/-- Is the text an integer as far as its underscores tell?  It starts with decimal
digits and no zero; an underscore stands before a digit of base sixteen, and
after one.  Everything else may stand between, but for what makes a number with
a fraction or an exponent, and for a space. -/
def seemsWhole (cs : List Char) : Bool :=
  match fields (· == '_') cs with
  | [] => false
  | first :: groups =>
      first.all Char.isDigit && first.head?.any (· != '0') &&
      groups.all (fun group => group.head?.any (isDigitOf 16)) &&
      groups.dropLast.all (fun group => group.getLast?.any (isDigitOf 16)) &&
      !cs.any fun c => c == '.' || isExponentMark c || c == ' '

/-- Read a decimal integer without a sign.  One that holds more than digits has
no value. -/
def decimal? (cs : List Char) : Option (Option Nat) :=
  match whole? cs with
  | some digits => some (some (value 10 digits))
  | none => if seemsWhole cs then some none else none

/-- Read an integer in a base named by its mark. -/
def radix? (base : Nat) (cs : List Char) : Option (Option Int) :=
  if cs.isEmpty then some none
  else (digits? (isDigitOf base) cs).map fun digits => some (value base digits)

/-- Read an integer. -/
def integer? (cs : List Char) : Option (Option Int) :=
  match cs with
  | '0' :: 'x' :: rest => radix? 16 rest
  | '0' :: 'o' :: rest => radix? 8 rest
  | '0' :: 'b' :: rest => radix? 2 rest
  | _ =>
      let (negative, rest) := signed cs
      (decimal? rest).map fun magnitude =>
        magnitude.map fun n => if negative then -(n : Int) else n

/-- Read the exponent of a number, without its mark. -/
def exponent? (cs : List Char) : Option Int :=
  let (negative, rest) := signed cs
  (digits? Char.isDigit rest).map fun digits =>
    if negative then -(value 10 digits : Int) else value 10 digits

/-- Read a finite number with a fraction, an exponent, or both. -/
def finite? (negative : Bool) (cs : List Char) : Option Fractional := do
  let mantissa := cs.takeWhile (!isExponentMark ·)
  let power ← match cs.dropWhile (!isExponentMark ·) with
    | [] => some 0
    | _ :: rest => exponent? rest
  let digits ← whole? (mantissa.takeWhile (· != '.'))
  let fraction ← match mantissa.dropWhile (· != '.') with
    | [] => some []
    | _ :: rest => digits? Char.isDigit rest
  some (.finite negative (value 10 (digits ++ fraction)) (power - fraction.length))

/-- Read a number that is not an integer. -/
def fractional? (cs : List Char) : Option Fractional :=
  let (negative, rest) := signed cs
  if rest = "inf".toList then some (.infinite negative)
  else if rest = "nan".toList then some .nan
  else if rest.any fun c => c == '.' || isExponentMark c then finite? negative rest
  else none

end Number

end AssetMenu.Document
