import AssetMenu.Text.Fields

/-!
# Paths

A path is kept as it is written and is cut at its slashes when it is used.  An
empty segment and a lone dot name nothing of their own, so they are blank: the
last component of a path is its last segment that is not blank.  A leading slash
makes a path absolute; a leading dot that stands alone counts as a component,
although it names the place where the path starts.
-/

namespace AssetMenu

open Text

/-- A path as it is written. -/
structure Path where
  text : String
  deriving DecidableEq, Repr, Inhabited

namespace Path

def isEmpty (path : Path) : Bool :=
  path.text.toList.isEmpty

/-- Does the path start at the root? -/
def isAbsolute (path : Path) : Bool :=
  path.text.toList.head? == some '/'

/-- Does the path end with a slash? -/
def endsWithSlash (path : Path) : Bool :=
  path.text.toList.getLast? == some '/'

/-- A segment that names nothing of its own. -/
def isBlank (segment : List Char) : Bool :=
  segment.isEmpty || segment == ['.']

/-- The mark at the start of a path: a slash, or a dot that stands alone as the
first segment. -/
def mark : List Char → List Char
  | '/' :: _ => ['/']
  | ['.'] => ['.']
  | '.' :: '/' :: _ => ['.']
  | _ => []

/-- The segments behind the mark. -/
def body (cs : List Char) : List (List Char) :=
  fields (· == '/') (cs.drop (mark cs).length)

/-- Segments without the blank ones at the end. -/
def trim (segments : List (List Char)) : List (List Char) :=
  (segments.reverse.dropWhile isBlank).reverse

/-- The text of a path from its mark and the segments behind it. -/
def assemble (mark : List Char) (segments : List (List Char)) : List Char :=
  mark ++ List.intercalate ['/'] segments

/-- The last component of a path. -/
inductive LastComponent where
  | name (text : String)
  | parent
  | root
  | here
  | none
  deriving DecidableEq, Repr

/-- What the last component of a path is. -/
def lastComponent (path : Path) : LastComponent :=
  let cs := path.text.toList
  match (trim (body cs)).getLast? with
  | some segment => if segment = ['.', '.'] then .parent else .name (String.ofList segment)
  | Option.none =>
      match mark cs with
      | ['/'] => .root
      | ['.'] => .here
      | _ => .none

/-- The path without its last component and the slashes and dots next to it; the
rest stays as it is written.  The root and the empty path have no parent. -/
def parent? (path : Path) : Option Path :=
  let cs := path.text.toList
  match trim (body cs) with
  | [] => if mark cs = ['.'] then some ⟨""⟩ else none
  | segments => some ⟨String.ofList (assemble (mark cs) (trim segments.dropLast))⟩

/-- The paths above `path`, the nearest first, at most `bound` of them. -/
def parentsWithin : Nat → Path → List Path
  | 0, _ => []
  | bound + 1, path =>
      match path.parent? with
      | some parent => parent :: parentsWithin bound parent
      | none => []

/-- The paths above `path`, the nearest first.  A parent is shorter than the path
it belongs to, so there are no more of them than the path has characters. -/
def parents (path : Path) : List Path :=
  parentsWithin path.text.length path

/-- `child` as seen from the directory `path`. -/
def join (path child : Path) : Path :=
  if child.isAbsolute then child
  else if path.isEmpty || path.endsWithSlash then ⟨path.text ++ child.text⟩
  else ⟨path.text ++ "/" ++ child.text⟩

/-- The directory that holds what `path` names. -/
def directory (path : Path) : Path :=
  match path.parent? with
  | some parent => if parent.isEmpty then ⟨"."⟩ else parent
  | none => ⟨"."⟩

end Path

end AssetMenu
