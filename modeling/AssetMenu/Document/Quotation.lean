import AssetMenu.Document.Cursor

/-!
# Quoted texts of a document

A document writes text in four ways: between double quotes, where a backslash
starts an escape, between single quotes, where every character stands for
itself, and between three quotes of either kind, where line ends are admitted.
Each reader starts behind the opening quotes and ends behind the closing ones.
A text between three quotes may end with up to two quotes of its own: of a run
of quotes the first three close the text only if no more than two follow.
-/

namespace AssetMenu.Document

open Text

namespace Quotation

/-- Value of a hexadecimal digit. -/
def hexDigit? (c : Char) : Option Nat :=
  if '0' ≤ c ∧ c ≤ '9' then some (c.toNat - 48)
  else if 'a' ≤ c ∧ c ≤ 'f' then some (c.toNat - 87)
  else if 'A' ≤ c ∧ c ≤ 'F' then some (c.toNat - 55)
  else none

/-- Value of a row of hexadecimal digits. -/
def hexNumber? (digits : List Char) : Option Nat :=
  digits.foldlM (fun value c => (hexDigit? c).map (16 * value + ·)) 0

/-- The character with the number written in hexadecimal.  Surrogates and numbers
beyond the last code point denote none. -/
def codePoint? (digits : List Char) : Option Char := do
  let value ← hexNumber? digits
  if value.isValidChar then some (Char.ofNat value) else none

/-- What a backslash and one letter stand for. -/
def shortEscape? : Char → Option Char
  | 'b' => some '\x08'
  | 't' => some '\t'
  | 'n' => some '\n'
  | 'f' => some '\x0c'
  | 'r' => some '\r'
  | 'e' => some '\x1b'
  | '"' => some '"'
  | '\\' => some '\\'
  | _ => none

/-- Put a character in front of a text that was read. -/
def push (c : Char) (tail : Option (List Char × Cursor)) : Option (List Char × Cursor) :=
  tail.map fun result => (c :: result.1, result.2)

/-- Read a text up to its closing double quote. -/
def basic : List Char → Nat → Option (List Char × Cursor)
  | [], _ => none
  | '"' :: rest, offset => some ([], ⟨rest, offset + 1⟩)
  | '\\' :: 'x' :: a :: b :: rest, offset =>
      (codePoint? [a, b]).bind fun c => push c (basic rest (offset + 4))
  | '\\' :: 'u' :: a :: b :: c :: d :: rest, offset =>
      (codePoint? [a, b, c, d]).bind fun c => push c (basic rest (offset + 6))
  | '\\' :: 'U' :: a :: b :: c :: d :: e :: f :: g :: h :: rest, offset =>
      (codePoint? [a, b, c, d, e, f, g, h]).bind fun c => push c (basic rest (offset + 10))
  | '\\' :: e :: rest, offset =>
      (shortEscape? e).bind fun c => push c (basic rest (offset + 2))
  | c :: rest, offset =>
      if Cursor.isPlain c && c != '\\' then push c (basic rest (offset + c.utf8Size)) else none

/-- Read a text up to its closing single quote. -/
def literal : List Char → Nat → Option (List Char × Cursor)
  | [], _ => none
  | '\'' :: rest, offset => some ([], ⟨rest, offset + 1⟩)
  | c :: rest, offset =>
      if Cursor.isPlain c then push c (literal rest (offset + c.utf8Size)) else none

/-- The end of a text between three quotes: `quote` was found three times, and up
to two more belong to the text. -/
def closing (quote : Char) (rest : List Char) (offset : Nat) : List Char × Cursor :=
  match rest with
  | a :: b :: more =>
      if a = quote ∧ b = quote then ([quote, quote], ⟨more, offset + 2⟩)
      else if a = quote then ([quote], ⟨b :: more, offset + 1⟩)
      else ([], ⟨rest, offset⟩)
  | [a] => if a = quote then ([quote], ⟨[], offset + 1⟩) else ([], ⟨rest, offset⟩)
  | [] => ([], ⟨[], offset⟩)

/-- Does only white space follow on this line?  Such a backslash hides the line
end. -/
def lineContinues (rest : List Char) : Bool :=
  match rest.dropWhile Cursor.isSpace with
  | '\n' :: _ => true
  | '\r' :: '\n' :: _ => true
  | _ => false

/-- Read a text up to three double quotes.  While `skipping`, white space and line
ends are passed over, as they are after a backslash that ends its line. -/
def multilineBasic (skipping : Bool) : List Char → Nat → Option (List Char × Cursor)
  | [], _ => none
  | '"' :: '"' :: '"' :: rest, offset => some (closing '"' rest (offset + 3))
  | '\\' :: 'x' :: a :: b :: rest, offset =>
      (codePoint? [a, b]).bind fun c => push c (multilineBasic false rest (offset + 4))
  | '\\' :: 'u' :: a :: b :: c :: d :: rest, offset =>
      (codePoint? [a, b, c, d]).bind fun c => push c (multilineBasic false rest (offset + 6))
  | '\\' :: 'U' :: a :: b :: c :: d :: e :: f :: g :: h :: rest, offset =>
      (codePoint? [a, b, c, d, e, f, g, h]).bind fun c =>
        push c (multilineBasic false rest (offset + 10))
  | '\\' :: e :: rest, offset =>
      if lineContinues (e :: rest) then multilineBasic true (e :: rest) (offset + 1)
      else (shortEscape? e).bind fun c => push c (multilineBasic false rest (offset + 2))
  | '\r' :: '\n' :: rest, offset =>
      if skipping then multilineBasic true rest (offset + 2)
      else push '\r' (push '\n' (multilineBasic false rest (offset + 2)))
  | '\n' :: rest, offset =>
      if skipping then multilineBasic true rest (offset + 1)
      else push '\n' (multilineBasic false rest (offset + 1))
  | c :: rest, offset =>
      if skipping && Cursor.isSpace c then multilineBasic true rest (offset + 1)
      else if Cursor.isPlain c && c != '\\' then
        push c (multilineBasic false rest (offset + c.utf8Size))
      else none

/-- Read a text up to three single quotes. -/
def multilineLiteral : List Char → Nat → Option (List Char × Cursor)
  | [], _ => none
  | '\'' :: '\'' :: '\'' :: rest, offset => some (closing '\'' rest (offset + 3))
  | '\r' :: '\n' :: rest, offset =>
      push '\r' (push '\n' (multilineLiteral rest (offset + 2)))
  | '\n' :: rest, offset => push '\n' (multilineLiteral rest (offset + 1))
  | c :: rest, offset =>
      if Cursor.isPlain c then push c (multilineLiteral rest (offset + c.utf8Size)) else none

/-- A line end directly behind three opening quotes does not belong to the text. -/
def skipFirstLineEnd (c : Cursor) : Cursor :=
  match c.rest with
  | '\n' :: rest => ⟨rest, c.offset + 1⟩
  | '\r' :: '\n' :: rest => ⟨rest, c.offset + 2⟩
  | _ => c

end Quotation

open Quotation in
/-- Read a quoted text on one line. -/
def readQuoted (c : Cursor) : Option (List Char × Cursor) :=
  match c.rest with
  | '"' :: rest => basic rest (c.offset + 1)
  | '\'' :: rest => literal rest (c.offset + 1)
  | _ => none

open Quotation in
/-- Read a quoted text in any of the four ways. -/
def readText (c : Cursor) : Option (List Char × Cursor) :=
  match c.rest with
  | '"' :: '"' :: '"' :: rest =>
      let c := skipFirstLineEnd ⟨rest, c.offset + 3⟩
      multilineBasic false c.rest c.offset
  | '\'' :: '\'' :: '\'' :: rest =>
      let c := skipFirstLineEnd ⟨rest, c.offset + 3⟩
      multilineLiteral c.rest c.offset
  | _ => readQuoted c

end AssetMenu.Document
