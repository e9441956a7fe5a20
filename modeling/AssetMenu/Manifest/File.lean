import AssetMenu.FileSystem.Basic
import AssetMenu.Manifest.Read

/-!
# Manifest files

A manifest together with the file it was read from.  Paths in a manifest are
meant relative to the directory of that file.
-/

namespace AssetMenu

/-- A manifest file that was read. -/
structure ManifestFile where
  path : Path
  content : String
  manifest : Manifest

namespace ManifestFile

/-- Read a manifest file. -/
def load (fs : FileSystem) (path : Path) : Except ManifestError ManifestFile :=
  match fs.readText path with
  | .error fault => .error (.unreadable path fault)
  | .ok content => do
      let manifest ← Manifest.ofSource content path.text
      .ok ⟨path, content, manifest⟩

/-- A path of the manifest as seen from the working directory. -/
def resolvePath (file : ManifestFile) (path : Path) : Path :=
  if path.isAbsolute then path
  else match file.path.parent? with
    | some directory => if directory.isEmpty then path else directory.join path
    | none => path

/-- The path of the generated file. -/
def outputPath (file : ManifestFile) : Path :=
  file.resolvePath file.manifest.generator.output

end ManifestFile

end AssetMenu
