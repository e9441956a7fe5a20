import AssetMenu.Text.Visible

/-!
# Quoted values in messages

A message shows a text value between double quotes.  Quotes and backslashes are
escaped, the common control characters have short names, and every other
character that would not show is given by its number.
-/

namespace AssetMenu.Text

/-- How one character appears between the quotes. -/
def quotedChar (c : Char) : List Char :=
  if c = '\x00' then ['\\', '0']
  else if c = '\t' then ['\\', 't']
  else if c = '\r' then ['\\', 'r']
  else if c = '\n' then ['\\', 'n']
  else if c = '"' then ['\\', '"']
  else if c = '\\' then ['\\', '\\']
  else if isVisible c && !isMark c then [c]
  else "\\u\x7b".toList ++ Nat.toDigits 16 c.toNat ++ ['\x7d']

/-- The text between double quotes. -/
def quoted (text : String) : String :=
  String.ofList ('"' :: text.toList.flatMap quotedChar ++ ['"'])

end AssetMenu.Text
