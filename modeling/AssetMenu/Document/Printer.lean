import AssetMenu.Text.Fields

/-!
# Writing texts into documents

A text is written in the simplest of the quoted forms that can hold it.  Control
characters and backslashes need escapes, which only double quotes know; line ends
need three quotes; quotes of one kind are at home between those of the other.
-/

namespace AssetMenu.Document

namespace Printer

/-- A control character that only an escape can stand for. -/
def isControl (c : Char) : Bool :=
  (c.toNat ≤ 31 && c != '\t' && c != '\n') || c.toNat == 127

/-- Are there more than two of `quote` in a row, where `run` of them stand before
the text? -/
def hasLongRun (quote : Char) : Nat → List Char → Bool
  | run, [] => 2 < run
  | run, c :: rest =>
      if c = quote then hasLongRun quote (run + 1) rest
      else 2 < run || hasLongRun quote 0 rest

/-- A hexadecimal digit in upper case. -/
def upperHex (n : Nat) : Char :=
  (Nat.digitChar n).toUpper

/-- The escape of a character that does not stand for itself between double
quotes, line ends and double quotes apart. -/
def escape? (c : Char) : Option (List Char) :=
  if c = '\x08' then some ['\\', 'b']
  else if c = '\t' then some ['\\', 't']
  else if c = '\x0c' then some ['\\', 'f']
  else if c = '\r' then some ['\\', 'r']
  else if c = '\\' then some ['\\', '\\']
  else if isControl c then
    some ['\\', 'u', '0', '0', upperHex (c.toNat / 16), upperHex (c.toNat % 16)]
  else none

/-- A character between double quotes on one line. -/
def basicChar (c : Char) : List Char :=
  if c = '"' then ['\\', '"']
  else if c = '\n' then ['\\', 'n']
  else (escape? c).getD [c]

/-- A text between three double quotes.  A quote is escaped if two others stand
before it that are not, where `run` of those stand before the text. -/
def multilineChars : Nat → List Char → List Char
  | _, [] => []
  | run, c :: rest =>
      if c = '"' then
        if run = 2 then '\\' :: '"' :: multilineChars 0 rest
        else '"' :: multilineChars (run + 1) rest
      else (escape? c).getD [c] ++ multilineChars 0 rest

/-- The ways in which a text can be written. -/
inductive Form where
  | basic
  | literal
  | multilineBasic
  | multilineLiteral
  deriving DecidableEq, Repr

/-- The first form that fits. -/
def formOf (cs : List Char) : Form :=
  let hasControl := cs.any isControl
  let hasLineEnd := cs.contains '\n'
  let hasBackslash := cs.contains '\\'
  if !hasControl && !hasBackslash && !cs.contains '"' && !hasLineEnd then .basic
  else if !hasControl && !cs.contains '\'' && !hasLineEnd then .literal
  else if !hasControl && !hasBackslash && !hasLongRun '"' 0 cs then .multilineBasic
  else if !hasControl && !hasLongRun '\'' 0 cs then .multilineLiteral
  else if hasLineEnd then .multilineBasic
  else .basic

/-- A text with three quotes around it.  One that holds line ends starts on a line
of its own. -/
def tripleQuoted (quote : Char) (cs inner : List Char) : List Char :=
  let quotes := [quote, quote, quote]
  quotes ++ (if cs.contains '\n' then ['\n'] else []) ++ inner ++ quotes

end Printer

open Printer in
/-- A text with quotes, as it is written into a document. -/
def printText (cs : List Char) : List Char :=
  match formOf cs with
  | .basic => '"' :: cs.flatMap basicChar ++ ['"']
  | .literal => '\'' :: cs ++ ['\'']
  | .multilineBasic => tripleQuoted '"' cs (multilineChars 0 cs)
  | .multilineLiteral => tripleQuoted '\'' cs cs

end AssetMenu.Document
