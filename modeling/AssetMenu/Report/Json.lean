/-!
# Reports for programs

A report can be written as JSON, with every member and item on a line of its own.
-/

namespace AssetMenu.Report

/-- The values that reports are made of. -/
inductive Json where
  | text (value : String)
  | integer (value : Int)
  | array (items : List Json)
  | object (members : List (String × Json))

namespace Json

/-- One character of a text. -/
def textChar (c : Char) : List Char :=
  if c = '"' then ['\\', '"']
  else if c = '\\' then ['\\', '\\']
  else if c = '\x08' then ['\\', 'b']
  else if c = '\x0c' then ['\\', 'f']
  else if c = '\n' then ['\\', 'n']
  else if c = '\r' then ['\\', 'r']
  else if c = '\t' then ['\\', 't']
  else if c.toNat < 32 then
    ['\\', 'u', '0', '0', Nat.digitChar (c.toNat / 16), Nat.digitChar (c.toNat % 16)]
  else [c]

/-- A text with its quotes. -/
def quote (text : String) : String :=
  String.ofList ('"' :: text.toList.flatMap textChar ++ ['"'])

/-- The beginning of a line at a level. -/
def margin (level : Nat) : String :=
  String.ofList (List.replicate (2 * level) ' ')

/-- Parts between two brackets, each on a line of its own.  Without parts the
brackets stand side by side. -/
def bracketed (level : Nat) (opening closing : String) (parts : List String) : String :=
  if parts.isEmpty then opening ++ closing
  else
    opening ++ "\n" ++ margin (level + 1) ++
      String.intercalate (",\n" ++ margin (level + 1)) parts ++
      "\n" ++ margin level ++ closing

mutual

/-- The text of a value that begins on a line at a level. -/
def render (level : Nat) : Json → String
  | .text value => quote value
  | .integer value => toString value
  | .array items => bracketed level "[" "]" (renderItems (level + 1) items)
  | .object members => bracketed level "\x7b" "\x7d" (renderMembers (level + 1) members)

def renderItems (level : Nat) : List Json → List String
  | [] => []
  | item :: rest => render level item :: renderItems level rest

def renderMembers (level : Nat) : List (String × Json) → List String
  | [] => []
  | (name, value) :: rest =>
      (quote name ++ ": " ++ render level value) :: renderMembers level rest

end

end Json

end AssetMenu.Report
