import AssetMenu.Text.Fields
import AssetMenu.Text.Letter

/-!
# Names of types

A type is named by the segments of its namespace, of the types it is nested in
and of itself, in this order.  A dot parts a segment from a namespace, a plus
sign from an enclosing type.  A segment is an identifier, and a generic type adds
its number of type parameters behind a backquote.
-/

namespace AssetMenu

open Text

namespace TypeName

/-- The characters that part the segments of a name. -/
def isSeparator (c : Char) : Bool :=
  c == '.' || c == '+'

/-- The mark in front of the number of type parameters. -/
def arityMark : Char := '\x60'

/-- May `c` begin an identifier? -/
def isIdentifierStart (c : Char) : Bool :=
  isLetter c || c == '_'

/-- May `c` stand in an identifier behind its first character? -/
def isIdentifierPart (c : Char) : Bool :=
  isAlphanumeric c || c == '_'

/-- A letter or underscore, then letters, numbers and underscores. -/
def isIdentifier : List Char → Bool
  | [] => false
  | c :: cs => isIdentifierStart c && cs.all isIdentifierPart

/-- What may follow the identifier of a segment: nothing, or a number of type
parameters. -/
def isArity : List Char → Bool
  | [] => true
  | _ :: digits => !digits.isEmpty && digits.all Char.isDigit

/-- An identifier and perhaps a number of type parameters. -/
def isSegment (cs : List Char) : Bool :=
  isIdentifier (cs.takeWhile (· != arityMark)) && isArity (cs.dropWhile (· != arityMark))

/-- The segments of a name. -/
def segments (cs : List Char) : List (List Char) :=
  fields isSeparator cs

/-- Is every segment of the name well formed? -/
def isQualified (cs : List Char) : Bool :=
  (segments cs).all isSegment

/-- The last segment of a name. -/
def lastSegment (cs : List Char) : List Char :=
  (segments cs).getLast?.getD []

/-- A name with a dot in place of every separator. -/
def dotted (cs : List Char) : List Char :=
  cs.map fun c => if c == '+' then '.' else c

end TypeName

/-- Is the text one segment of a type name? -/
def isTypeSegment (text : String) : Bool :=
  TypeName.isSegment text.toList

/-- Is the text a full type name?  The empty text is not, since a segment is not
empty. -/
def isTypeName (text : String) : Bool :=
  TypeName.isQualified text.toList

/-- The name of a type without its namespace and enclosing types. -/
def simpleName (fullName : String) : String :=
  String.ofList (TypeName.lastSegment fullName.toList)

/-- The name of a type as program text refers to it, where a dot parts a nested
type from the one around it. -/
def sourceName (fullName : String) : String :=
  String.ofList (TypeName.dotted fullName.toList)

end AssetMenu
