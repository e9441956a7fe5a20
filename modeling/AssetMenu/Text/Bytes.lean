/-!
# Lengths in bytes

Positions in a source are counted in bytes of its UTF-8 form, while the text
itself is handled as a list of characters.  The byte count of a list is the sum
of the counts of its characters, so counts add up over concatenation.
-/

namespace AssetMenu.Text

/-- Number of bytes of `cs` in UTF-8. -/
def byteCount : List Char → Nat
  | [] => 0
  | c :: cs => c.utf8Size + byteCount cs

@[simp]
theorem byteCount_nil : byteCount [] = 0 := rfl

@[simp]
theorem byteCount_cons (c : Char) (cs : List Char) :
    byteCount (c :: cs) = c.utf8Size + byteCount cs := rfl

@[simp]
theorem byteCount_append (left right : List Char) :
    byteCount (left ++ right) = byteCount left + byteCount right := by
  induction left with
  | nil => simp
  | cons c cs ih => simp [ih, Nat.add_assoc]

end AssetMenu.Text
