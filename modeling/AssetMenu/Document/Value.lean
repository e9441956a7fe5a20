import AssetMenu.Document.Node

/-!
# Reading values

Arrays and tables in braces hold further values, which are read by the same
rules.  The reader of a value is built from the reader of the values in it, so
that the depth of nesting is its only measure; a document nests at most eighty
deep.  A dotted key is a path into tables, and it is bounded likewise.
-/

namespace AssetMenu.Document

/-- Characters of a key without quotes. -/
def isBareKeyChar (c : Char) : Bool :=
  c.isAlphanum || c == '_' || c == '-'

/-- Read one key. -/
def readKey (c : Cursor) : Option (Key × Cursor) :=
  match c.rest with
  | '"' :: _ => (readQuoted c).map fun (text, next) => (⟨String.ofList text, c.spanTo next⟩, next)
  | '\'' :: _ => (readQuoted c).map fun (text, next) => (⟨String.ofList text, c.spanTo next⟩, next)
  | _ =>
      let (word, next) := c.takeWhile isBareKeyChar
      if word.isEmpty then none else some (⟨String.ofList word, c.spanTo next⟩, next)

/-- Read a dotted key of at most `bound` parts, and the blanks behind it. -/
def readKeyPathWithin : Nat → Cursor → Option (KeyPath × Cursor)
  | 0, _ => none
  | bound + 1, c => do
      let (key, next) ← readKey c
      let next := next.skipSpaces
      match next.rest with
      | '.' :: rest =>
          let (path, last) ←
            readKeyPathWithin bound (Cursor.skipSpaces ⟨rest, next.offset + 1⟩)
          some (⟨key :: path.through, path.last⟩, last)
      | _ => some (⟨[], key⟩, next)

/-- How many parts a dotted key may have. -/
def maxKeyParts : Nat := 80

/-- Read a dotted key, and the blanks behind it. -/
def readKeyPath (c : Cursor) : Option (KeyPath × Cursor) :=
  readKeyPathWithin maxKeyParts c

/-- A reader of values. -/
abbrev ValueReader := Cursor → Option (Node × Cursor)

/-- Read a key, the equals sign and the value behind it, all on one line. -/
def readPair (value : ValueReader) (c : Cursor) : Option (KeyPath × Node × Cursor) := do
  let (path, c) ← readKeyPath c
  let c ← c.expect '='
  let (node, c) ← value c.skipSpaces
  some (path, node, c)

/-- Read a key, the equals sign and the value behind it, as they stand in braces:
line ends and comments may surround the equals sign. -/
def readEntry (value : ValueReader) (c : Cursor) : Option (KeyPath × Node × Cursor) := do
  let (path, c) ← readKeyPath c
  let c ← c.skipFiller
  let c ← c.expect '='
  let c ← c.skipFiller
  let (node, c) ← value c
  some (path, node, c)

/-- Read the items of an array up to its bracket, at most `bound` of them.
Blanks, line ends and comments may stand between them, and a comma may follow
the last one. -/
def readItemsWithin (value : ValueReader) : Nat → Cursor → Option (List Node × Cursor)
  | 0, _ => none
  | bound + 1, c => do
      let c ← c.skipFiller
      match c.rest with
      | ']' :: rest => some ([], ⟨rest, c.offset + 1⟩)
      | _ =>
          let (node, c) ← value c
          let c ← c.skipFiller
          match c.rest with
          | ']' :: rest => some ([node], ⟨rest, c.offset + 1⟩)
          | ',' :: rest =>
              let (nodes, c) ← readItemsWithin value bound ⟨rest, c.offset + 1⟩
              some (node :: nodes, c)
          | _ => none

/-- Read the entries of a table in braces up to its closing brace, at most
`bound` of them, and add them to `table`. -/
def readEntriesWithin (value : ValueReader) : Nat → Table → Cursor → Option (Table × Cursor)
  | 0, _, _ => none
  | bound + 1, table, c => do
      let c ← c.skipFiller
      match c.rest with
      | '\x7d' :: rest => some (table, ⟨rest, c.offset + 1⟩)
      | _ =>
          let (path, node, c) ← readEntry value c
          let table ← table.insert path node
          let c ← c.skipFiller
          match c.rest with
          | '\x7d' :: rest => some (table, ⟨rest, c.offset + 1⟩)
          | ',' :: rest => readEntriesWithin value bound table ⟨rest, c.offset + 1⟩
          | _ => none

/-- Read a single value, an array or a table in braces, nested at most `depth`
deep. -/
def readValueWithin : Nat → ValueReader
  | depth, c =>
      match c.rest with
      | '[' :: rest =>
          match depth with
          | 0 => none
          | depth + 1 => do
              let (items, next) ← readItemsWithin (readValueWithin depth) (c.rest.length + 1)
                ⟨rest, c.offset + 1⟩
              some (.array (c.spanTo next) items, next)
      | '\x7b' :: rest =>
          match depth with
          | 0 => none
          | depth + 1 => do
              let (table, next) ← readEntriesWithin (readValueWithin depth) (c.rest.length + 1)
                (Table.empty ⟨0, 0⟩ .braces) ⟨rest, c.offset + 1⟩
              some (Table.toNode { table with span := c.spanTo next, origin := .braces }, next)
      | _ => (Scalar.read c).map fun (value, next) => (.scalar (c.spanTo next) value, next)

/-- How deep arrays and tables in braces may be nested. -/
def maxDepth : Nat := 80

/-- Read a value of a document. -/
def readValue : ValueReader :=
  readValueWithin maxDepth

end AssetMenu.Document
