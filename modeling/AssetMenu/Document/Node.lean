import AssetMenu.Document.Scalar

/-!
# The contents of a document

A document is a tree of tables.  A table keeps its entries in the order in which
they were made, and it remembers how it came to be, since that decides whether
it may still grow: a table that a path only passed through may get a header of
its own later, one that was written out may not.
-/

namespace AssetMenu.Document

/-- A key as it stands in the document. -/
structure Key where
  text : String
  span : Span
  deriving DecidableEq, Repr

/-- A dotted key: the keys it passes through, and the one it ends at. -/
structure KeyPath where
  through : List Key
  last : Key
  deriving DecidableEq, Repr

/-- How a table came to be. -/
inductive Origin where
  /-- It is the document, or has a header of its own. -/
  | header
  /-- A header's path passed through it. -/
  | passedByHeader
  /-- A dotted key passed through it. -/
  | passedByKey
  /-- It is written out in braces. -/
  | braces
  deriving DecidableEq, Repr

/-- A value with the place it has in the document. -/
inductive Node where
  | scalar (span : Span) (value : Scalar)
  | array (span : Span) (items : List Node)
  /-- Tables of one name, each of which has a header. -/
  | tables (span : Span) (items : List Node)
  | table (span : Span) (origin : Origin) (entries : List (Key × Node))

/-- The place of a value.  A table or array made by headers has the place of its
first header, a table that a path passed through that of the key. -/
def Node.span : Node → Span
  | .scalar span _ => span
  | .array span _ => span
  | .tables span _ => span
  | .table span _ _ => span

/-- A table on its own. -/
structure Table where
  span : Span
  origin : Origin
  entries : List (Key × Node)

namespace Table

def toNode (table : Table) : Node :=
  .table table.span table.origin table.entries

/-- A table without entries. -/
def empty (span : Span) (origin : Origin) : Table :=
  ⟨span, origin, []⟩

/-- The value at a key. -/
def find? (name : String) (table : Table) : Option Node :=
  (table.entries.find? fun entry => entry.1.text == name).map (·.2)

/-- Add an entry behind the others. -/
def append (key : Key) (node : Node) (table : Table) : Table :=
  { table with entries := table.entries ++ [(key, node)] }

/-- Put another value at a key that is present. -/
def replace (name : String) (node : Node) (table : Table) : Table :=
  { table with
    entries := table.entries.map fun entry =>
      if entry.1.text == name then (entry.1, node) else entry }

/-- Take the entry at a key away. -/
def erase (name : String) (table : Table) : Table :=
  { table with entries := table.entries.filter fun entry => entry.1.text != name }

/-- May a path go on through a table of this origin?  A header's path passes
through all but tables in braces; a dotted key passes only through tables that
no header and no braces have fixed. -/
def Origin.admits (made : Origin) : Origin → Bool
  | .header => made != .passedByKey
  | .passedByHeader => true
  | .passedByKey => true
  | .braces => false

/-- Change the table at the end of a path, and answer something about it.
Missing tables on the way are made with the origin `made`; where a name stands
for several tables, the path goes through the last one. -/
def alterAt {α : Type} (made : Origin) (change : Table → Option (α × Table)) :
    List Key → Table → Option (α × Table)
  | [], table => change table
  | key :: path, table =>
      match table.find? key.text with
      | none => do
          let (answer, child) ← alterAt made change path (empty key.span made)
          some (answer, table.append key child.toNode)
      | some (.table span origin entries) => do
          guard (Origin.admits made origin)
          let (answer, child) ← alterAt made change path ⟨span, origin, entries⟩
          some (answer, table.replace key.text child.toNode)
      | some (.tables span items) => do
          let .table last origin entries ← items.getLast? | none
          let (answer, child) ← alterAt made change path ⟨last, origin, entries⟩
          some (answer, table.replace key.text (.tables span (items.dropLast ++ [child.toNode])))
      | some _ => none

/-- Add an entry under a dotted key.  The table that gets it must have been made
by dotted keys as well, and must not hold the key yet. -/
def insert (path : KeyPath) (node : Node) (table : Table) : Option Table :=
  (alterAt .passedByKey
    (fun parent => do
      guard (path.through.isEmpty || parent.origin == .passedByKey)
      guard (parent.find? path.last.text).isNone
      some ((), parent.append path.last node))
    path.through table).map (·.2)

end Table

end AssetMenu.Document
