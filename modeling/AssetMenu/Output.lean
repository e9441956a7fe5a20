import AssetMenu.FileSystem.Change

/-!
# The output file

Where the generated text goes.  A path is accepted as a target when it names a
file and its directory exists or can be created.  It can be accepted for good,
which creates the missing directories, or only be checked, which changes
nothing.  The text then replaces the file as a whole, and a file that already
holds the text is left alone.
-/

namespace AssetMenu

/-- May missing directories be created? -/
inductive DirectoryPolicy where
  | create
  | requireExisting
  deriving DecidableEq, Repr

/-- Why a path cannot be the target. -/
inductive TargetFault where
  | empty
  | endsWithSlash
  | namesNoFile
  | nulInName
  | isDirectory
  | notInDirectory (directory : Path)
  | missingDirectory (directory : Path)
  | cannotCreate (directory : Path) (fault : Fault)
  deriving DecidableEq, Repr

/-- The reason that a message gives. -/
def TargetFault.message : TargetFault → String
  | .empty => "path is empty"
  | .endsWithSlash => "path ends with a separator"
  | .namesNoFile => "path does not name a file"
  | .nulInName => "file name contains a NUL byte"
  | .isDirectory => "path is an existing directory"
  | .notInDirectory directory => "'" ++ directory.text ++ "' is not a directory"
  | .missingDirectory directory => "directory '" ++ directory.text ++ "' does not exist"
  | .cannotCreate directory fault =>
      "cannot create directory '" ++ directory.text ++ "': " ++ fault.message

/-- A failure at the output file. -/
inductive OutputError where
  | invalidPath (path : Path) (fault : TargetFault)
  | writeFailed (path : Path) (fault : Fault)
  deriving DecidableEq, Repr

namespace OutputError

def message : OutputError → String
  | .invalidPath path fault => "invalid output path '" ++ path.text ++ "': " ++ fault.message
  | .writeFailed path _ => "failed to write '" ++ path.text ++ "'"

/-- The name under which a failure is looked up. -/
def code : OutputError → String
  | .invalidPath _ _ => "menugen::invalid_output_path"
  | .writeFailed _ _ => "menugen::write_failed"

/-- What to do about a failure. -/
def help : OutputError → Option String
  | .invalidPath _ _ =>
      some "set [generator].output in menugen.toml or pass --output <FILE>"
  | .writeFailed _ _ => none

end OutputError

/-- What a write did. -/
inductive WriteOutcome where
  | written
  | unchanged
  deriving DecidableEq, Repr

/-- A path that was accepted as a target. -/
structure OutputPath where
  path : Path
  deriving DecidableEq, Repr

namespace OutputPath

/-- The demands on the path itself.  The answer is the directory that is to hold
the file. -/
def checkTarget (fs : FileSystem) (path : Path) : Except TargetFault Path :=
  if path.isEmpty then .error .empty
  else if path.endsWithSlash then .error .endsWithSlash
  else match path.lastComponent with
    | .name name =>
        if name.toList.contains '\x00' then .error .nulInName
        else if fs.isDirectory path then .error .isDirectory
        else .ok path.directory
    | _ => .error .namesNoFile

/-- `directory` has to be a directory. -/
def checkDirectory (fs : FileSystem) (directory : Path) : Except TargetFault Unit :=
  if fs.isDirectory directory then .ok () else .error (.notInDirectory directory)

/-- Make sure that the directory of the file exists. -/
def prepareDirectory (policy : DirectoryPolicy) (fs : FileSystem) (directory : Path) :
    Except TargetFault Unit × FileSystem :=
  if fs.contains directory then (checkDirectory fs directory, fs)
  else match policy with
    | .requireExisting => (.error (.missingDirectory directory), fs)
    | .create =>
        match fs.createDirectories directory with
        | (.ok (), changed) => (.ok (), changed)
        | (.error fault, changed) => (.error (.cannotCreate directory fault), changed)

/-- Accept a path as a target.  Missing directories are created if the policy
allows it, and those that were created stay if a later one fails. -/
def validate (policy : DirectoryPolicy) (fs : FileSystem) (path : Path) :
    Except OutputError OutputPath × FileSystem :=
  match checkTarget fs path with
  | .error fault => (.error (.invalidPath path fault), fs)
  | .ok directory =>
      match prepareDirectory policy fs directory with
      | (.error fault, changed) => (.error (.invalidPath path fault), changed)
      | (.ok (), changed) => (.ok ⟨path⟩, changed)

/-- The demands on a directory that need not exist yet: the nearest path above it
that exists has to be a directory. -/
def checkMissing (policy : DirectoryPolicy) (fs : FileSystem) (directory : Path) :
    Except TargetFault Unit :=
  match policy with
  | .requireExisting => .error (.missingDirectory directory)
  | .create =>
      match directory.parents.find? fs.contains with
      | some existing => checkDirectory fs existing
      | none => .ok ()

/-- Check a path as a target without creating anything. -/
def check (policy : DirectoryPolicy) (fs : FileSystem) (path : Path) : Except OutputError Unit :=
  let verdict := do
    let directory ← checkTarget fs path
    if fs.contains directory then checkDirectory fs directory
    else checkMissing policy fs directory
  verdict.mapError (.invalidPath path)

/-- Does the file hold exactly `content`? -/
def holds (fs : FileSystem) (path : Path) (content : ByteArray) : Bool :=
  match fs.readBytes path with
  | .ok existing => existing == content
  | .error _ => false

/-- A name like those that temporary files get, all of which have one length. -/
def temporaryName : Path := ⟨".tmp000000"⟩

/-- The directory must be able to take in the new text, in a file of its own,
before it replaces the old one.  That file is named from the top, so that it is
found again wherever the working directory is then. -/
def stage (fs : FileSystem) (directory : Path) : Except Fault Unit := do
  FileSystem.accept (fs.absolute (directory.join temporaryName))
  match ← fs.find directory with
  | .directory _ => .ok ()
  | .file _ => .error .notDirectory

/-- Replace the content of the file.  The new text is put beside the file and
moved over it in one step, so the file holds the old text or the new one and
never a part of either. -/
def write (fs : FileSystem) (target : OutputPath) (text : String) :
    Except OutputError WriteOutcome × FileSystem :=
  let content := text.toUTF8
  if holds fs target.path content then (.ok .unchanged, fs)
  else
    let replaced := do
      stage fs target.path.directory
      fs.replaceFile target.path content
    match replaced with
    | .ok changed => (.ok .written, changed)
    | .error fault => (.error (.writeFailed target.path fault), fs)

end OutputPath

end AssetMenu
