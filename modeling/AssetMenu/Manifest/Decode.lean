import AssetMenu.Manifest.Basic
import AssetMenu.Manifest.Mismatch

/-!
# From documents to manifests

A manifest consists of records.  A record is written as a table, whose keys name
the fields, or as an array, which gives the fields in their order.  Values are
taken in the order of the document and in depth, and the first that does not fit
is reported; a field that is missing is reported behind all others of its
record.
-/

namespace AssetMenu

open Document

namespace Decode

/-- Smallest integer of 64 bits with a sign. -/
def minInteger : Int := -0x8000000000000000

/-- Largest integer of 64 bits with a sign. -/
def maxInteger : Int := 0x7FFFFFFFFFFFFFFF

/-- What kind of integer a value is.  Beyond 128 bits it is none. -/
def integerShape (value : Int) : Except MismatchCause Shape :=
  if minInteger ≤ value ∧ value < 0x10000000000000000 then .ok (.integer value)
  else if -0x80000000000000000000000000000000 ≤ value ∧
      value < 0x80000000000000000000000000000000 then .ok (.wideSigned value)
  else if 0 ≤ value ∧ value < 0x100000000000000000000000000000000 then .ok (.wideUnsigned value)
  else .error .integerOverflow

/-- What a single value is. -/
def scalarShape : Scalar → Except MismatchCause Shape
  | .text value => .ok (.text value)
  | .integer (some value) => integerShape value
  | .integer none => .error .integerOverflow
  | .fractional value =>
      match value.text? with
      | some numeral => .ok (.fractional numeral)
      | none => .error .fractionalOverflow
  | .boolean value => .ok (.boolean value)
  | .dateTime _ => .ok .map

/-- What a value is. -/
def shape (node : Node) : Except Mismatch Shape :=
  match node with
  | .scalar span value => (scalarShape value).mapError (⟨·, span⟩)
  | .array _ _ => .ok .sequence
  | .tables _ _ => .ok .sequence
  | .table _ _ _ => .ok .map

/-- Report a value that is not what its place asks for. -/
def refuse {α : Type} (expected : Expectation) (node : Node) : Except Mismatch α := do
  let found ← shape node
  .error ⟨.wrongType found expected, node.span⟩

/-- The key under which a date or time appears where a table is asked for. -/
def dateTimeKey : String :=
  "$__toml_private_datetime"

/-- The entries of a table.  A date or time counts as a table with one entry,
which holds its text. -/
def entries? : Node → Option (List (Key × Node))
  | .table _ _ entries => some entries
  | .scalar span (.dateTime value) =>
      some [(⟨dateTimeKey, span⟩, .scalar span (.text value.text))]
  | _ => none

/-- The items of an array. -/
def items? : Node → Option (List Node)
  | .array _ items => some items
  | .tables _ items => some items
  | _ => none

/-- Read a text. -/
def text (node : Node) : Except Mismatch String :=
  match node with
  | .scalar _ (.text value) => .ok value
  | _ => refuse .text node

/-- Read a path. -/
def path (node : Node) : Except Mismatch Path :=
  match node with
  | .scalar _ (.text value) => .ok ⟨value⟩
  | _ => refuse .path node

/-- Read a truth value. -/
def boolean (node : Node) : Except Mismatch Bool :=
  match node with
  | .scalar _ (.boolean value) => .ok value
  | _ => refuse .boolean node

/-- Read an integer of 64 bits with a sign. -/
def integer (node : Node) : Except Mismatch Int := do
  match ← shape node with
  | .integer value =>
      if value ≤ maxInteger then .ok value else .error ⟨.outOfRange value, node.span⟩
  | found => .error ⟨.wrongType found .integer, node.span⟩

/-- What happens if a field is left out. -/
inductive Presence where
  /-- It has to be there. -/
  | required
  /-- It may be left out of a table, but not of an array. -/
  | optional
  /-- It may be left out. -/
  | defaulted
  deriving DecidableEq

/-- One field of a record of type `α`. -/
structure Field (α : Type) where
  name : String
  presence : Presence
  read : Node → α → Except Mismatch α

/-- A record: its fields in order, and what it is before any field was read. -/
structure Record (α : Type) where
  name : String
  fields : List (Field α)
  initial : α

namespace Record

variable {α : Type}

/-- Read one entry of a table. -/
def readEntry (record : Record α) (value : α) (entry : Key × Node) : Except Mismatch α :=
  match record.fields.find? fun field => field.name == entry.1.text with
  | some field => field.read entry.2 value
  | none => .error ⟨.unknownField entry.1.text (record.fields.map (·.name)), entry.1.span⟩

/-- The first required field that no entry names. -/
def missing? (record : Record α) (entries : List (Key × Node)) : Option String :=
  (record.fields.find? fun field =>
    field.presence == .required && !entries.any fun entry => entry.1.text == field.name).map
    (·.name)

/-- Read a record from a table. -/
def readEntries (record : Record α) (span : Span) (entries : List (Key × Node)) :
    Except Mismatch α := do
  let value ← entries.foldlM record.readEntry record.initial
  match record.missing? entries with
  | some name => .error ⟨.missingField name, span⟩
  | none => .ok value

/-- Read the fields of a record from the items of an array, where `index` fields
were read before.  Items behind the last field are not looked at. -/
def readItems (record : Record α) (span : Span) :
    Nat → List (Field α) → List Node → α → Except Mismatch α
  | _, [], _, value => .ok value
  | index, field :: fields, item :: items, value => do
      let value ← field.read item value
      record.readItems span (index + 1) fields items value
  | index, field :: fields, [], value =>
      if field.presence = .defaulted then record.readItems span (index + 1) fields [] value
      else .error ⟨.tooShort index record.name record.fields.length, span⟩

/-- Read a record. -/
def read (record : Record α) (node : Node) : Except Mismatch α :=
  match entries? node, items? node with
  | some entries, _ => record.readEntries node.span entries
  | none, some items => record.readItems node.span 0 record.fields items record.initial
  | none, none => refuse (.record record.name) node

end Record

/-- The settings of the generated file. -/
def generator : Record GeneratorSettings where
  name := "GeneratorConfig"
  fields :=
    [ ⟨"output", .required, fun node value => do
        let output ← path node
        .ok { value with output }⟩,
      ⟨"order", .defaulted, fun node value => do
        let order ← integer node
        .ok { value with order }⟩,
      ⟨"prefix", .defaulted, fun node value => do
        let before ← text node
        .ok { value with affixes := { value.affixes with before } }⟩,
      ⟨"suffix", .defaulted, fun node value => do
        let after ← text node
        .ok { value with affixes := { value.affixes with after } }⟩,
      ⟨"base_type", .defaulted, fun node value => do
        let baseType ← text node
        .ok { value with baseType }⟩,
      ⟨"create_dirs", .defaulted, fun node value => do
        let createDirectories ← boolean node
        .ok { value with createDirectories }⟩ ]
  initial := ⟨⟨""⟩, 0, Affixes.none, defaultBaseType, true⟩

/-- The tag of a type. -/
def menu : Record MenuTag where
  name := "MenuDecl"
  fields :=
    [ ⟨"prefix", .defaulted, fun node value => do
        let before ← text node
        .ok { value with affixes := { value.affixes with before } }⟩,
      ⟨"suffix", .defaulted, fun node value => do
        let after ← text node
        .ok { value with affixes := { value.affixes with after } }⟩,
      ⟨"order", .optional, fun node value => do
        let order ← integer node
        .ok { value with order := some order }⟩ ]
  initial := ⟨Affixes.none, none⟩

/-- The declaration of a type. -/
def declaration : Record TypeDeclaration where
  name := "TypeDecl"
  fields :=
    [ ⟨"assembly", .optional, fun node value => do
        let assembly ← text node
        .ok { value with assembly := some assembly }⟩,
      ⟨"extends", .optional, fun node value => do
        let name ← text node
        .ok { value with base := some ⟨name, node.span⟩ }⟩,
      ⟨"abstract", .defaulted, fun node value => do
        let isAbstract ← boolean node
        .ok { value with isAbstract }⟩,
      ⟨"generic", .defaulted, fun node value => do
        let isGeneric ← boolean node
        .ok { value with isGeneric }⟩,
      ⟨"public", .defaulted, fun node value => do
        let isPublic ← boolean node
        .ok { value with isPublic }⟩,
      ⟨"menu", .optional, fun node value => do
        let tag ← menu.read node
        .ok { value with menu := some tag }⟩ ]
  initial := ⟨none, none, false, false, true, none⟩

/-- The declared types by name. -/
def types (node : Node) : Except Mismatch (List (String × TypeDeclaration)) :=
  match entries? node with
  | some entries => entries.mapM fun entry => do
      let value ← declaration.read entry.2
      .ok (entry.1.text, value)
  | none => refuse .map node

/-- A manifest. -/
def manifest : Record Manifest where
  name := "Manifest"
  fields :=
    [ ⟨"generator", .required, fun node value => do
        let settings ← generator.read node
        .ok { value with generator := settings }⟩,
      ⟨"types", .defaulted, fun node value => do
        let declared ← types node
        .ok { value with types := declared }⟩ ]
  initial := ⟨generator.initial, []⟩

end Decode

/-- The manifest that a document describes. -/
def Manifest.ofDocument (table : Table) : Except Mismatch Manifest :=
  Decode.manifest.readEntries table.span table.entries

end AssetMenu
