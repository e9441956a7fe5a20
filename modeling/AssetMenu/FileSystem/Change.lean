import AssetMenu.FileSystem.Basic

/-!
# Changing the file system

Directories are created one at a time, files are replaced as a whole.  An
operation that fails leaves the file system as it was; only the creation of
several directories can stop half-way, and then answers how far it came.
-/

namespace AssetMenu

namespace FileSystem

/-- The place of the directory that a path's last segment stands in, and that
segment.  Slashes at the end of the path do not count. -/
def resolveLast (fs : FileSystem) (path : Path) : Except Fault (Location × String) := do
  accept path
  let segments := (((segments path).reverse).dropWhile (·.isEmpty)).reverse
  let location ← fs.walk (fs.startOf path) segments.dropLast
  match fs.at? location with
  | some (.directory _) => .ok (location, segments.getLast?.getD "")
  | some (.file _) => .error .notDirectory
  | none => .error .notFound

/-- Is the segment something else than a name? -/
def isSpecial (segment : String) : Bool :=
  segment == "" || segment == "." || segment == ".."

/-- Create one directory in a directory that exists. -/
def createDirectory (fs : FileSystem) (path : Path) : Except Fault FileSystem := do
  let (location, name) ← fs.resolveLast path
  if isSpecial name then .error .alreadyExists
  else if maxNameLength < name.utf8ByteSize then .error .nameTooLong
  else if (fs.at? (location ++ [name])).isSome then .error .alreadyExists
  else .ok (fs.put (location ++ [name]) (.directory []))

/-- Create a directory, or be content with one that is there. -/
def ensureDirectory (fs : FileSystem) (path : Path) : Except Fault FileSystem :=
  match fs.createDirectory path with
  | .ok changed => .ok changed
  | .error fault => if fs.isDirectory path then .ok fs else .error fault

/-- Create the first directory of `paths`, where each path is followed by the one
above it.  What is missing above is created before.  The file system in the
answer holds what was created, also if the creation failed. -/
def ensureChain (fs : FileSystem) : List Path → Except Fault Unit × FileSystem
  | [] => (.ok (), fs)
  | path :: above =>
      if path.isEmpty then (.ok (), fs)
      else match fs.createDirectory path with
        | .ok changed => (.ok (), changed)
        | .error .notFound =>
            match fs.ensureChain above with
            | (.error fault, changed) => (.error fault, changed)
            | (.ok (), changed) =>
                match changed.ensureDirectory path with
                | .ok complete => (.ok (), complete)
                | .error fault => (.error fault, changed)
        | .error fault => if fs.isDirectory path then (.ok (), fs) else (.error fault, fs)

/-- Create a directory and all that are missing above it. -/
def createDirectories (fs : FileSystem) (path : Path) : Except Fault Unit × FileSystem :=
  fs.ensureChain (path :: path.parents)

/-- Give a file new content in one step, or create it.  Its directory must
exist, and no directory may have its name. -/
def replaceFile (fs : FileSystem) (path : Path) (content : ByteArray) :
    Except Fault FileSystem := do
  let (location, name) ← fs.resolveLast path
  if isSpecial name then .error .busy
  else if maxNameLength < name.utf8ByteSize then .error .nameTooLong
  else match fs.at? (location ++ [name]) with
    | some (.directory _) => .error .isDirectory
    | _ => .ok (fs.put (location ++ [name]) (.file content))

/-- Remove a file, or a directory with all it holds. -/
def delete (fs : FileSystem) (path : Path) : Except Fault FileSystem := do
  let location ← fs.resolve path
  .ok (fs.remove location)

end FileSystem

end AssetMenu
