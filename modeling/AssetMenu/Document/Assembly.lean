import AssetMenu.Document.Statement

/-!
# From statements to a table

The statements of a document build up one table.  A header opens a table, which
gets the entries that follow and takes its place in the document when the next
header or the end of the document is reached.  A table that a path only passed
through is taken out of its place when its own header comes and is put back,
with what it holds, behind the entries that are there by then.
-/

namespace AssetMenu.Document

/-- The header that the entries at hand belong to. -/
structure OpenHeader where
  path : KeyPath
  span : Span
  repeated : Bool

/-- A document in the making: what has taken its place, and the table that is
open. -/
structure Assembly where
  root : Table
  current : Table
  header : Option OpenHeader

namespace Assembly

/-- A document before its first statement. -/
def start : Assembly :=
  ⟨Table.empty ⟨0, 0⟩ .header, Table.empty ⟨0, 0⟩ .header, none⟩

/-- Put one more table under a name that may stand for several. -/
def addRepeated (key : Key) (table : Table) (parent : Table) : Option Table :=
  match parent.find? key.text with
  | none => some (parent.append key (.tables table.span [table.toNode]))
  | some (.tables span items) =>
      some (parent.replace key.text (.tables span (items ++ [table.toNode])))
  | some _ => none

/-- Let the open table take its place. -/
def close (a : Assembly) : Option Table :=
  match a.header with
  | none => some a.current
  | some header =>
      let table := { a.current with span := header.span }
      (Table.alterAt .passedByHeader
        (fun parent =>
          if header.repeated then (addRepeated header.path.last table parent).map ((), ·)
          else some ((), parent.append header.path.last table.toNode))
        header.path.through a.root).map (·.2)

/-- Take the table at a name out of its parent, with what paths have made of it
so far.  A table that was made in any other way stays closed. -/
def takeOut (name : String) (parent : Table) : Option (Table × Table) :=
  match parent.find? name with
  | none => some (Table.empty ⟨0, 0⟩ .header, parent)
  | some (.table span .passedByHeader entries) =>
      some (⟨span, .header, entries⟩, parent.erase name)
  | some _ => none

/-- Take in one statement. -/
def step (a : Assembly) : Statement → Option Assembly
  | .pair path value => do
      let current ← a.current.insert path value
      some { a with current }
  | .header path span => do
      let root ← a.close
      let (current, root) ←
        Table.alterAt .passedByHeader (takeOut path.last.text) path.through root
      some ⟨root, current, some ⟨path, span, false⟩⟩
  | .repeatedHeader path span => do
      let root ← a.close
      some ⟨root, Table.empty span .header, some ⟨path, span, true⟩⟩

/-- The table that the statements build, if they agree with each other. -/
def ofStatements? (statements : List Statement) : Option Table := do
  let a ← statements.foldlM step start
  a.close

end Assembly

/-- The root table of a source, if the source is a well-formed document. -/
def ofSource? (source : List Char) : Option Table := do
  let statements ← Statement.readAll source
  Assembly.ofStatements? statements

end AssetMenu.Document
