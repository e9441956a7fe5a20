import AssetMenu.Document.Span
import AssetMenu.Text.Bytes

/-!
# Reading positions

A reader works on the characters that are still ahead of it and on the number of
bytes that lie behind.  Every step moves characters from the one side to the
other, so the place of whatever was read is the pair of offsets before and after
the step.
-/

namespace AssetMenu.Document

open Text

/-- A position in a source: what is still to be read, and how many bytes were. -/
structure Cursor where
  rest : List Char
  offset : Nat

namespace Cursor

/-- The place between two positions of one source. -/
def spanTo (start stop : Cursor) : Span :=
  ⟨start.offset, stop.offset⟩

/-- Split off the longest run of characters that satisfy `p`. -/
def takeWhile (p : Char → Bool) (c : Cursor) : List Char × Cursor :=
  let run := c.rest.takeWhile p
  (run, ⟨c.rest.dropWhile p, c.offset + byteCount run⟩)

/-- A space or a tab, the only white space within a line of a document. -/
def isSpace (c : Char) : Bool :=
  c == ' ' || c == '\t'

/-- Pass over spaces and tabs. -/
def skipSpaces (c : Cursor) : Cursor :=
  (c.takeWhile isSpace).2

/-- Step over `expected`, which must come next. -/
def expect (expected : Char) (c : Cursor) : Option Cursor :=
  match c.rest with
  | next :: rest => if next = expected then some ⟨rest, c.offset + next.utf8Size⟩ else none
  | [] => none

/-- Characters that may stand in comments and in texts that know no escapes: all
but the control characters, of which only the tab is admitted. -/
def isPlain (c : Char) : Bool :=
  c == '\t' || (32 ≤ c.toNat && c.toNat ≠ 127)

/-- Pass over blanks, line ends and comments, as many as there are.  A comment
runs from `#` to the end of its line. -/
def skipFillerFrom (inComment : Bool) : List Char → Nat → Option Cursor
  | [], offset => some ⟨[], offset⟩
  | '\n' :: rest, offset => skipFillerFrom false rest (offset + 1)
  | '\r' :: '\n' :: rest, offset => skipFillerFrom false rest (offset + 2)
  | c :: rest, offset =>
      if inComment then
        if isPlain c then skipFillerFrom true rest (offset + c.utf8Size) else none
      else if isSpace c then skipFillerFrom false rest (offset + 1)
      else if c = '#' then skipFillerFrom true rest (offset + 1)
      else some ⟨c :: rest, offset⟩

/-- Pass over blanks, line ends and comments. -/
def skipFiller (c : Cursor) : Option Cursor :=
  skipFillerFrom false c.rest c.offset

/-- Pass over the rest of a comment, up to the end of its line. -/
def skipComment : List Char → Nat → Option Cursor
  | [], offset => some ⟨[], offset⟩
  | '\n' :: rest, offset => some ⟨'\n' :: rest, offset⟩
  | '\r' :: '\n' :: rest, offset => some ⟨'\r' :: '\n' :: rest, offset⟩
  | c :: rest, offset => if isPlain c then skipComment rest (offset + c.utf8Size) else none

/-- Pass over the end of a line: blanks, a comment, and the line end itself or
the end of the source. -/
def skipLineEnd (c : Cursor) : Option Cursor := do
  let c := c.skipSpaces
  let c ← match c.rest with
    | '#' :: rest => skipComment rest (c.offset + 1)
    | _ => some c
  match c.rest with
  | [] => some c
  | '\n' :: rest => some ⟨rest, c.offset + 1⟩
  | '\r' :: '\n' :: rest => some ⟨rest, c.offset + 2⟩
  | _ => none

/-- The start of a source.  A byte order mark is passed over, and its three
bytes count. -/
def ofSource (source : List Char) : Cursor :=
  match source with
  | '\uFEFF' :: rest => ⟨rest, 3⟩
  | _ => ⟨source, 0⟩

end Cursor

end AssetMenu.Document
