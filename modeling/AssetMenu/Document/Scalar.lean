import AssetMenu.Document.Cursor
import AssetMenu.Document.DateTime
import AssetMenu.Document.Number
import AssetMenu.Document.Quotation

/-!
# Single values

A value that is neither an array nor a table is a quoted text or a word.  A word
is a truth value, a number, or a date or time.  A space may part the day from the
hour, so a word takes in all that blanks part, and it is then judged as a whole.
-/

namespace AssetMenu.Document

/-- A single value.  An integer that denotes no number has no value. -/
inductive Scalar where
  | text (value : String)
  | integer (value : Option Int)
  | fractional (value : Fractional)
  | boolean (value : Bool)
  | dateTime (value : DateTime)
  deriving DecidableEq, Repr

namespace Scalar

/-- Read a word as a value. -/
def ofWord? (word : List Char) : Option Scalar :=
  if word = "true".toList then some (.boolean true)
  else if word = "false".toList then some (.boolean false)
  else
    ((DateTime.ofText? word).map .dateTime) <|>
    ((Number.integer? word).map .integer) <|>
    ((Number.fractional? word).map .fractional)

/-- Characters that words are made of: all but blanks, line ends, and the
characters that set values apart. -/
def isWordChar (c : Char) : Bool :=
  !"=,[]\x7b\x7d# \t\r\n".toList.contains c

/-- Does a word go on behind the blanks?  Neither a quoted text nor a dot is taken
for more of the word. -/
def goesOn (rest : List Char) : Bool :=
  match rest.dropWhile Cursor.isSpace with
  | [] => false
  | c :: _ => isWordChar c && c != '.' && c != '"' && c != '\''

/-- The word that a text starts with.  Blanks belong to it if it goes on behind
them. -/
def wordOf : List Char → List Char
  | [] => []
  | c :: rest =>
      if isWordChar c || (Cursor.isSpace c && goesOn rest) then c :: wordOf rest else []

/-- Read a word. -/
def readWord (c : Cursor) : List Char × Cursor :=
  let word := wordOf c.rest
  (word, ⟨c.rest.drop word.length, c.offset + Text.byteCount word⟩)

/-- Read a single value. -/
def read (c : Cursor) : Option (Scalar × Cursor) :=
  match c.rest with
  | '"' :: _ => (readText c).map fun (value, next) => (.text (String.ofList value), next)
  | '\'' :: _ => (readText c).map fun (value, next) => (.text (String.ofList value), next)
  | _ =>
      let (word, next) := readWord c
      (ofWord? word).map fun value => (value, next)

end Scalar

end AssetMenu.Document
