import AssetMenu.CommandLine.Run

/-!
# The program

The program takes in the part of the disk that its arguments name, runs on it, and
carries out what has changed.  What it does is decided by the run alone.
-/

namespace AssetMenu.CommandLine

/-- The paths that a command looks at, as far as they are known from what was
taken in. -/
def Command.paths (fs : FileSystem) : Command → List Path
  | .init directory _ => [Starter.pathIn directory]
  | .generate config overrides _ =>
      match ManifestFile.load fs config with
      | .ok file => [config, (overrides.apply (Config.ofFile file)).output]
      | .error _ => [config]
  | .check config _ => [config]
  | .completions _ => []

/-- The paths whose entries a run may ask for: `path`, and those it passes
through. -/
def visited (fs : FileSystem) (path : Path) : List Location :=
  let step (state : Location × List Location) (segment : String) : Location × List Location :=
    let next :=
      if segment = "" ∨ segment = "." then state.1
      else if segment = ".." then state.1.dropLast
      else state.1 ++ [segment]
    (next, next :: state.2)
  ((FileSystem.segments path).foldl step (fs.startOf path, [])).2.reverse

/-- What has been added or replaced, directories before what they hold. -/
def changes (old new : FileSystem) : List (String × Option ByteArray) :=
  let before := Entry.listingOf "/" old.children
  (Entry.listingOf "/" new.children).filter fun entry => !before.contains entry

/-- A place as a path from the root of the disk. -/
def absolute (location : Location) : String :=
  "/" ++ String.intercalate "/" location

/-- Take in what stands at a place of the disk. -/
def takeIn (fs : FileSystem) (location : Location) : IO FileSystem := do
  let path := (← IO.currentDir) / absolute location
  if (fs.at? location).isSome then return fs
  if ← path.isDir then return fs.put location (.directory [])
  if ← path.pathExists then return fs.put location (.file (← IO.FS.readBinFile path))
  return fs

/-- Take in the entries that some paths lead through. -/
def takeInPaths (fs : FileSystem) (paths : List Path) : IO FileSystem :=
  (paths.flatMap (visited fs)).foldlM takeIn fs

/-- The working directory, and the directories above it. -/
def workingDirectory : IO FileSystem := do
  let location := (FileSystem.segments ⟨(← IO.currentDir).toString⟩).filter (· != "")
  let above := (List.range (location.length + 1)).map location.take
  above.foldlM takeIn ⟨[], location⟩

/-- Carry out one change.  A file is written beside its place and moved there. -/
def carryOut (change : String × Option ByteArray) : IO Unit := do
  match change with
  | (path, none) => IO.FS.createDir path
  | (path, some content) =>
      let staged := path ++ ".menugen.tmp"
      IO.FS.writeBinFile staged content
      IO.FS.rename staged path

/-- Run a command on the disk. -/
def perform (command : Command) : IO Outcome := do
  let fs ← workingDirectory
  let fs ← takeInPaths fs (command.paths fs)
  let fs ← takeInPaths fs (command.paths fs)
  let (outcome, final) := command.run fs
  (changes fs final).forM carryOut
  return outcome

/-- Print the outcome of a run. -/
def present (outcome : Outcome) : IO UInt32 := do
  IO.print outcome.output
  for line in outcome.warnings do
    IO.eprintln line
  if let some complaint := outcome.complaint then
    IO.eprintln ("error: " ++ complaint)
  return UInt32.ofNat outcome.exitCode

end AssetMenu.CommandLine

open AssetMenu.CommandLine in
def main (arguments : List String) : IO UInt32 := do
  match Command.read arguments with
  | .error stop => present (Outcome.ofStop stop)
  | .ok command => present (← perform command)
