import AssetMenu.FileSystem.Entry
import AssetMenu.FileSystem.Fault
import AssetMenu.Path

/-!
# The file system

A file system is a tree of files and directories and the place of the working
directory.  A path is followed component by component: each step needs a
directory to start from, two dots lead to the directory above, and a name leads
to the entry of that name.  So a path through a missing component leads nowhere,
even if two dots follow.
-/

namespace AssetMenu

open Text

/-- The entries at the top, and the place that relative paths start from. -/
structure FileSystem where
  children : List (String × Entry)
  workingDirectory : Location

namespace FileSystem

/-- Number of bytes that a name can have. -/
def maxNameLength : Nat := 255

/-- Number of bytes that a path can have. -/
def maxPathLength : Nat := 4095

/-- The tree as one directory. -/
def root (fs : FileSystem) : Entry :=
  .directory fs.children

/-- What stands at a place. -/
def at? (fs : FileSystem) (location : Location) : Option Entry :=
  fs.root.at? location

/-- The file system with another entry at a place. -/
def put (fs : FileSystem) (location : Location) (entry : Entry) : FileSystem :=
  match Entry.put location entry fs.root with
  | .directory children => { fs with children }
  | .file _ => fs

/-- The file system without what stands at a place. -/
def remove (fs : FileSystem) (location : Location) : FileSystem :=
  match fs.root.remove location with
  | .directory children => { fs with children }
  | .file _ => fs

/-- The segments of a path as names. -/
def segments (path : Path) : List String :=
  (fields (· == '/') path.text.toList).map String.ofList

/-- A path as it is written from the top. -/
def absolute (fs : FileSystem) (path : Path) : Path :=
  Path.join ⟨"/" ++ "/".intercalate fs.workingDirectory⟩ path

/-- The place that a path starts from. -/
def startOf (fs : FileSystem) (path : Path) : Location :=
  if path.isAbsolute then [] else fs.workingDirectory

/-- One step along a path. -/
def step (fs : FileSystem) (location : Location) (segment : String) : Except Fault Location :=
  match fs.at? location with
  | none => .error .notFound
  | some (.file _) => .error .notDirectory
  | some (.directory children) =>
      if segment = "" ∨ segment = "." then .ok location
      else if segment = ".." then .ok location.dropLast
      else if maxNameLength < segment.utf8ByteSize then .error .nameTooLong
      else if (children.lookup segment).isSome then .ok (location ++ [segment])
      else .error .notFound

/-- Follow segments from a place. -/
def walk (fs : FileSystem) (start : Location) (segments : List String) : Except Fault Location :=
  segments.foldlM fs.step start

/-- Paths that no file system can follow. -/
def accept (path : Path) : Except Fault Unit :=
  if path.text.toList.contains '\x00' then .error .nulCharacter
  else if path.isEmpty then .error .notFound
  else if maxPathLength < path.text.utf8ByteSize then .error .nameTooLong
  else .ok ()

/-- The place that a path leads to. -/
def resolve (fs : FileSystem) (path : Path) : Except Fault Location := do
  accept path
  fs.walk (fs.startOf path) (segments path)

/-- What a path leads to. -/
def find (fs : FileSystem) (path : Path) : Except Fault Entry := do
  let location ← fs.resolve path
  match fs.at? location with
  | some entry => .ok entry
  | none => .error .notFound

/-- Does a path lead to anything? -/
def contains (fs : FileSystem) (path : Path) : Bool :=
  match fs.find path with
  | .ok _ => true
  | .error _ => false

/-- Does a path lead to a directory? -/
def isDirectory (fs : FileSystem) (path : Path) : Bool :=
  match fs.find path with
  | .ok entry => entry.isDirectory
  | .error _ => false

/-- The content of a file. -/
def readBytes (fs : FileSystem) (path : Path) : Except Fault ByteArray := do
  match ← fs.find path with
  | .file content => .ok content
  | .directory _ => .error .isDirectory

/-- The content of a file as text. -/
def readText (fs : FileSystem) (path : Path) : Except Fault String := do
  let content ← fs.readBytes path
  match String.fromUTF8? content with
  | some text => .ok text
  | none => .error .notText

/-- Everything below the working directory, by path. -/
def listing (fs : FileSystem) : List (String × Option ByteArray) :=
  match fs.at? fs.workingDirectory with
  | some (.directory children) =>
      (Entry.listingOf "" children).mergeSort fun a b => decide (¬ b.1 < a.1)
  | _ => []

end FileSystem

end AssetMenu
