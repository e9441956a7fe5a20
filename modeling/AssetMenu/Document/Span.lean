/-!
# Places in a source

A place is a range of bytes of the UTF-8 form of a source, from the first byte
up to but not including the last one.
-/

namespace AssetMenu.Document

/-- A range of bytes. -/
structure Span where
  start : Nat
  stop : Nat
  deriving DecidableEq, Repr, Inhabited

/-- Number of bytes in the range. -/
def Span.length (span : Span) : Nat :=
  span.stop - span.start

/-- The range of `length` bytes from `start` on. -/
def Span.ofLength (start length : Nat) : Span :=
  ⟨start, start + length⟩

end AssetMenu.Document
