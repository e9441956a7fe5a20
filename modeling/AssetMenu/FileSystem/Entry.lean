/-!
# Files and directories

The tree of files and directories.  A place in it is the list of names that lead
to it from the top, so the parent of every entry is a directory by construction.
-/

namespace AssetMenu

/-- A file with its content, or a directory with its entries by name. -/
inductive Entry where
  | file (content : ByteArray)
  | directory (children : List (String × Entry))

/-- The names that lead to a place from the top of the tree. -/
abbrev Location := List String

namespace Entry

/-- Is the entry a directory? -/
def isDirectory : Entry → Bool
  | .directory _ => true
  | .file _ => false

/-- What stands at a place. -/
def at? : Location → Entry → Option Entry
  | [], entry => some entry
  | _ :: _, .file _ => none
  | name :: rest, .directory children => (children.lookup name).bind (at? rest)

/-- The children with another entry at a name that is present. -/
def replaceChild (name : String) (entry : Entry) : List (String × Entry) → List (String × Entry)
  | [] => []
  | (other, old) :: rest =>
      if name == other then (other, entry) :: rest
      else (other, old) :: replaceChild name entry rest

/-- Put an entry at a place, in place of what stands there.  Nothing happens if
the directory that would hold it does not exist. -/
def put : Location → Entry → Entry → Entry
  | [], new, _ => new
  | _ :: _, _, .file content => .file content
  | name :: rest, new, .directory children =>
      match children.lookup name, rest with
      | some child, _ => .directory (replaceChild name (put rest new child) children)
      | none, [] => .directory (children ++ [(name, new)])
      | none, _ :: _ => .directory children

/-- Take away what stands at a place. -/
def remove : Location → Entry → Entry
  | [], entry => entry
  | _ :: _, .file content => .file content
  | [name], .directory children => .directory (children.filter fun child => child.1 != name)
  | name :: rest, .directory children =>
      match children.lookup name with
      | some child => .directory (replaceChild name (remove rest child) children)
      | none => .directory children

mutual

/-- Everything below an entry with its path, each path starting with `path`; a
directory has no content. -/
def listing (path : String) : Entry → List (String × Option ByteArray)
  | .file content => [(path, some content)]
  | .directory children => (path, none) :: listingOf (path ++ "/") children

/-- Everything in and below the children of a directory. -/
def listingOf (start : String) : List (String × Entry) → List (String × Option ByteArray)
  | [] => []
  | (name, entry) :: rest => listing (start ++ name) entry ++ listingOf start rest

end

end Entry

end AssetMenu
