import AssetMenu.Text.Bytes

/-!
# Finding a text in another

The leftmost occurrence of a pattern is described by the text that stands before
it.  Its position in bytes is the byte count of that text.
-/

namespace AssetMenu.Text

/-- The text before the leftmost occurrence of `pattern`, if there is one. -/
def before? (pattern : List Char) : List Char → Option (List Char)
  | [] => if pattern.isEmpty then some [] else none
  | c :: cs =>
      if pattern.isPrefixOf (c :: cs) then some []
      else (before? pattern cs).map (c :: ·)

/-- Byte position of the leftmost occurrence of `pattern` in `text`. -/
def position? (pattern text : List Char) : Option Nat :=
  (before? pattern text).map byteCount

end AssetMenu.Text
