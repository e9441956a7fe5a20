import AssetMenu.Proofs.FileSystem.Creation
import AssetMenu.Proofs.FileSystem.Replacement

/-!
# Delivering a file

A file is delivered in two steps: the directories on its way are created, and the file
is stored.  Both steps keep the ways that there are, so what a path of the first step
led to is not lost in the second, and on the whole there is nothing new but the file
and directories on its way.
-/

namespace AssetMenu.FileSystem

variable {before middle after : FileSystem} {paths : List Path} {target : Location}
  {content : ByteArray}

/-- The file at the target has this content, all else that stood somewhere stands there as it
was, and what else is new is a directory that one of the paths leads to. -/
structure Receives (before : FileSystem) (paths : List Path) (target : Location)
    (content : ByteArray) (after : FileSystem) : Prop where
  workingDirectory : after.workingDirectory = before.workingDirectory
  content : after.kindAt? target = some (.file content)
  notDirectory : before.kindAt? target ≠ some .directory
  kept : ∀ location, location ≠ target → before.kindAt? location ≠ none →
    after.kindAt? location = before.kindAt? location
  added : ∀ location, location ≠ target → before.kindAt? location = none →
    after.kindAt? location ≠ none →
      after.kindAt? location = some .directory ∧ ∃ path ∈ paths, after.resolve path = .ok location

/-- The two steps of a delivery. -/
theorem Creates.receives (hcreates : Creates before paths middle)
    (hstores : Stores middle target content after) :
    Receives before paths target content after where
  workingDirectory := hstores.workingDirectory.trans hcreates.grows.workingDirectory
  content := hstores.content
  notDirectory hdirectory :=
    hstores.notDirectory (hcreates.grows.kindAt?_eq_some hdirectory)
  kept location hne hsome :=
    (hstores.others location hne).trans (hcreates.grows.kept location hsome)
  added location hne hnone hsome := by
    rw [hstores.others location hne] at hsome ⊢
    obtain ⟨path, hpath, hresolve⟩ := hcreates.new location hnone hsome
    exact ⟨hcreates.grows.added location hnone hsome, path, hpath,
      hstores.keepsWays.resolve hresolve⟩

end AssetMenu.FileSystem
