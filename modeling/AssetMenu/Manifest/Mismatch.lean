import AssetMenu.Document.Node
import AssetMenu.Text.Quoted

/-!
# Documents that are no manifests

What is wrong with a well-formed document that does not have the structure of a
manifest, where it is wrong, and how it is reported.
-/

namespace AssetMenu

open Document

/-- What a value turned out to be. -/
inductive Shape where
  | text (value : String)
  | integer (value : Int)
  /-- An integer of more than 64 bits that fits into 128 bits with a sign. -/
  | wideSigned (value : Int)
  /-- An integer that takes up all of 128 bits without a sign. -/
  | wideUnsigned (value : Int)
  | fractional (numeral : String)
  | boolean (value : Bool)
  | sequence
  | map
  deriving DecidableEq, Repr

def Shape.describe : Shape → String
  | .text value => "string " ++ Text.quoted value
  | .integer value => s!"integer `{value}`"
  | .wideSigned value => s!"integer `{value}` as i128"
  | .wideUnsigned value => s!"integer `{value}` as u128"
  | .fractional numeral => s!"floating point `{numeral}`"
  | .boolean value => s!"boolean `{value}`"
  | .sequence => "sequence"
  | .map => "map"

/-- What a place in a manifest asks for. -/
inductive Expectation where
  | text
  | path
  | integer
  | boolean
  | map
  | record (name : String)
  deriving DecidableEq, Repr

def Expectation.describe : Expectation → String
  | .text => "a string"
  | .path => "path string"
  | .integer => "i64"
  | .boolean => "a boolean"
  | .map => "a map"
  | .record name => "struct " ++ name

/-- What is wrong at a place. -/
inductive MismatchCause where
  | unknownField (name : String) (known : List String)
  | missingField (name : String)
  | wrongType (found : Shape) (expected : Expectation)
  /-- An integer beyond the range of 64 bits with a sign. -/
  | outOfRange (value : Int)
  /-- An array stands for a record and ends before a field that has no default. -/
  | tooShort (length : Nat) (record : String) (fieldCount : Nat)
  | integerOverflow
  | fractionalOverflow
  deriving DecidableEq, Repr

/-- The names between backquotes, as a choice. -/
def oneOf (names : List String) : String :=
  let shown := names.map fun name => s!"`{name}`"
  match shown with
  | [first, second] => s!"{first} or {second}"
  | _ => "one of " ++ String.intercalate ", " shown

def MismatchCause.message : MismatchCause → String
  | .unknownField name known => s!"unknown field `{name}`, expected {oneOf known}"
  | .missingField name => s!"missing field `{name}`"
  | .wrongType found expected =>
      s!"invalid type: {found.describe}, expected {expected.describe}"
  | .outOfRange value =>
      s!"invalid value: {(Shape.integer value).describe}, expected {Expectation.describe .integer}"
  | .tooShort length record fieldCount =>
      s!"invalid length {length}, expected struct {record} with {fieldCount} elements"
  | .integerOverflow => "integer number overflowed"
  | .fractionalOverflow => "floating-point number overflowed"

/-- A place where a document differs from a manifest. -/
structure Mismatch where
  cause : MismatchCause
  span : Span
  deriving DecidableEq, Repr

end AssetMenu
