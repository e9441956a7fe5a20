import AssetMenu.Document.Value

/-!
# Statements of a document

A document is a text in the TOML format, version 1.1.  It is a sequence of
statements, each at the start of a line of its own: the header of a table, the
header of one of several tables of a name, or a key with its value.
-/

namespace AssetMenu.Document

/-- One statement.  The place of a header runs from its first bracket to its
last. -/
inductive Statement where
  | header (path : KeyPath) (span : Span)
  | repeatedHeader (path : KeyPath) (span : Span)
  | pair (path : KeyPath) (value : Node)

namespace Statement

/-- Read the path of a header and its closing bracket. -/
def readHeaderPath (c : Cursor) : Option (KeyPath × Cursor) := do
  let (path, c) ← readKeyPath c.skipSpaces
  let c ← c.expect ']'
  some (path, c)

/-- Read one statement, without the end of its line. -/
def read (c : Cursor) : Option (Statement × Cursor) :=
  match c.rest with
  | '[' :: '[' :: rest => do
      let (path, next) ← readHeaderPath ⟨rest, c.offset + 2⟩
      let next ← next.expect ']'
      some (.repeatedHeader path (c.spanTo next), next)
  | '[' :: rest => do
      let (path, next) ← readHeaderPath ⟨rest, c.offset + 1⟩
      some (.header path (c.spanTo next), next)
  | _ => do
      let (path, value, next) ← readPair readValue c
      some (.pair path value, next)

/-- Read statements up to the end of the source, at most `bound` of them. -/
def readAllWithin : Nat → Cursor → Option (List Statement)
  | 0, _ => none
  | bound + 1, c => do
      let c ← c.skipFiller
      if c.rest.isEmpty then some []
      else
        let (statement, c) ← read c
        let c ← c.skipLineEnd
        let rest ← readAllWithin bound c
        some (statement :: rest)

/-- The statements of a source, if it is well formed. -/
def readAll (source : List Char) : Option (List Statement) :=
  readAllWithin (source.length + 1) (Cursor.ofSource source)

end Statement

end AssetMenu.Document
