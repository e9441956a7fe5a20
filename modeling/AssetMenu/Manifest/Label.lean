import AssetMenu.Document.Span
import AssetMenu.Text.Blank
import AssetMenu.Text.Fields
import AssetMenu.Text.Search

/-!
# Labels found by search

Some messages point at a place that was not recorded when the manifest was read.
It is looked up in the source instead.  A type name is searched for between
quotes, first behind `types.` and then anywhere, with double quotes before
single ones.  A setting is searched for at the start of a line.
-/

namespace AssetMenu.Label

open Text Document

/-- The place of `name` where it stands behind `opening` and before `closing`. -/
def between? (source opening name closing : List Char) : Option Span :=
  (position? (opening ++ name ++ closing) source).map fun position =>
    Span.ofLength (position + byteCount opening) (byteCount name)

/-- The place of a type name in a source. -/
def ofName? (source name : List Char) : Option Span :=
  between? source "types.\"".toList name ['"'] <|>
  between? source "types.'".toList name ['\''] <|>
  between? source ['"'] name ['"'] <|>
  between? source ['\''] name ['\'']

/-- Does the line, from its first character on, assign a value to `key`? -/
def assigns (key line : List Char) : Bool :=
  key.isPrefixOf line && ((line.drop key.length).dropWhile isBlank).head? == some '='

/-- The place of an assignment in one of `lines`, where `offset` bytes stand before
the first of them.  Every line counts one byte more than it has, for its line
end. -/
def inLines? (key : List Char) : Nat → List (List Char) → Option Span
  | _, [] => none
  | offset, line :: rest =>
      let assignment := line.dropWhile isBlank
      if assigns key assignment then
        some (Span.ofLength (offset + (byteCount line - byteCount assignment))
          (byteCount assignment))
      else inLines? key (offset + byteCount line + 1) rest

/-- The place of the first line that assigns a value to `key`, without what the
line is indented by. -/
def ofSetting? (source key : List Char) : Option Span :=
  inLines? key 0 (lines source)

end AssetMenu.Label
