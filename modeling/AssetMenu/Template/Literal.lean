/-!
# Texts in program text

A menu path stands in the generated file between double quotes.  A backslash
starts an escape there, so the characters that would end the text or its line
are escaped, and so is the backslash itself.  A comment runs to the end of its
line and knows no escapes, so a line end within it becomes a space.
-/

namespace AssetMenu.Template

/-- One character between double quotes. -/
def escapeChar (c : Char) : List Char :=
  if c = '\\' then ['\\', '\\']
  else if c = '"' then ['\\', '"']
  else if c = '\n' then ['\\', 'n']
  else if c = '\r' then ['\\', 'r']
  else if c = '\t' then ['\\', 't']
  else if c = '\x00' then ['\\', '0']
  else [c]

/-- A text as it stands between double quotes. -/
def escape (text : String) : String :=
  String.ofList (text.toList.flatMap escapeChar)

/-- A text as it stands in a comment. -/
def singleLine (text : String) : String :=
  String.ofList (text.toList.map fun c => if c = '\r' ∨ c = '\n' then ' ' else c)

end AssetMenu.Template
