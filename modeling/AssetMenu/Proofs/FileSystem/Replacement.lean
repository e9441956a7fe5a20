import AssetMenu.Proofs.FileSystem.Standing

/-!
# Replacing files

A file is replaced at the place that its path leads to, or created where the path
would lead.  Nothing else in the file system changes.
-/

namespace AssetMenu.FileSystem

open AssetMenu.Path

variable {fs changed : FileSystem} {path : Path} {location : Location} {name : String}
  {content : ByteArray}

namespace StandsIn

variable (hstands : StandsIn fs path location name)

include hstands

/-- A file takes the one place that its path can lead to, unless a directory stands there. -/
theorem replaceFile_eq (content : ByteArray) :
    fs.replaceFile path content =
      if fs.isDirectory path then .error .isDirectory
      else .ok (fs.put (location ++ [name]) (.file content)) := by
  have hdirectory := hstands.isDirectory_iff
  rw [replaceFile, hstands.resolveLast_eq]
  simp only [bind, Except.bind, hstands.isSpecial_eq_false, Bool.false_eq_true, if_false,
    if_neg (Nat.not_lt.mpr hstands.short)]
  rw [kindAt?_eq_map] at hdirectory
  rcases hat : fs.at? (location ++ [name]) with _ | ⟨old | children⟩ <;>
    simp [hdirectory, hat, Entry.kind]

/-- What stands anywhere else is left alone. -/
theorem kindAt?_put (hfile : fs.isDirectory path = false) (content : ByteArray)
    (other : Location) :
    (fs.put (location ++ [name]) (.file content)).kindAt? other =
      if other = location ++ [name] then some (.file content) else fs.kindAt? other := by
  rw [Bool.eq_false_iff, Ne, hstands.isDirectory_iff] at hfile
  exact FileSystem.kindAt?_put (Entry.isLeaf_file content) hstands.parent hfile other

end StandsIn

/-- A file with this content stands at a place where no directory stood, and nothing else has
changed. -/
structure Stores (before : FileSystem) (location : Location) (content : ByteArray)
    (after : FileSystem) : Prop where
  workingDirectory : after.workingDirectory = before.workingDirectory
  content : after.kindAt? location = some (.file content)
  notDirectory : before.kindAt? location ≠ some .directory
  others : ∀ other, other ≠ location → after.kindAt? other = before.kindAt? other

theorem Stores.keepsWays {after : FileSystem} (hstores : Stores fs location content after) :
    fs.KeepsWays after where
  workingDirectory := hstores.workingDirectory
  directory other hdirectory := by
    have hne : other ≠ location := by
      rintro rfl
      exact hstores.notDirectory hdirectory
    rw [hstores.others other hne, hdirectory]
  present other hsome := by
    by_cases hplace : other = location
    · rw [hplace, hstores.content]
      exact Option.some_ne_none _
    · rwa [hstores.others other hplace]

theorem Stores.readBytes_eq {after : FileSystem} (hstores : Stores fs location content after)
    (hleads : after.resolve path = .ok location) : after.readBytes path = .ok content :=
  readBytes_eq_ok_iff.mpr ⟨location, hleads, hstores.content⟩

/-- A content that is there already need not be stored. -/
theorem stores_of_kindAt? (hfile : fs.kindAt? location = some (.file content)) :
    Stores fs location content fs :=
  ⟨rfl, hfile, by simp [hfile], fun _ _ => rfl⟩

/-- A file that is put into a directory is stored there. -/
theorem stores_put (content : ByteArray) (hparent : fs.kindAt? location = some .directory)
    (hold : fs.kindAt? (location ++ [name]) ≠ some .directory) :
    Stores fs (location ++ [name]) content (fs.put (location ++ [name]) (.file content)) := by
  have hput := FileSystem.kindAt?_put (Entry.isLeaf_file content) hparent hold
  constructor
  case workingDirectory => exact workingDirectory_put fs _ _
  case content =>
    rw [hput, if_pos rfl]
    rfl
  case notDirectory => exact hold
  case others =>
    intro other hne
    rw [hput, if_neg hne]

/-- A file that is put where a path can lead is what the path leads to. -/
theorem StandsIn.stores (hstands : StandsIn fs path location name)
    (hfile : fs.isDirectory path = false) (content : ByteArray) :
    let after := fs.put (location ++ [name]) (.file content)
    Stores fs (location ++ [name]) content after ∧
      after.resolve path = .ok (location ++ [name]) := by
  intro after
  rw [Bool.eq_false_iff, Ne, hstands.isDirectory_iff] at hfile
  have hstores := stores_put content hstands.parent hfile
  have hplace := hstands.keep hstores.keepsWays
  exact ⟨hstores, hplace.resolve_eq_ok_iff.mpr ⟨rfl, by simp [hstores.content]⟩⟩

/-- A dot behind the last component is no file. -/
theorem tidy_of_replaceFile (hslash : path.endsWithSlash = false)
    (hchanged : fs.replaceFile path content = .ok changed) : path.Tidy := by
  intro segment hsegment hblank
  exfalso
  obtain ⟨found, hfound, hreplace⟩ := bind_eq_ok_iff.mp hchanged
  obtain ⟨haccept, -⟩ := kindAt?_startOf_of_resolveLast hfound
  have hne : segment ≠ "" := by
    rintro rfl
    have hlast : (Text.fields (· == '/') path.text.toList).getLast? = some [] := by
      rw [segments, List.getLast?_map, Option.map_eq_some_iff] at hsegment
      obtain ⟨field, hfield, hempty⟩ := hsegment
      rw [hfield, ← String.toList_ofList (l := field), hempty]
      rfl
    rcases Text.getLast?_fields hlast with hnil | hcut
    · exact absurd hnil (isEmpty_eq_false_iff.mp (accept_eq_ok_iff.mp haccept).2.1)
    · simp [endsWithSlash, hcut] at hslash
  have htrim : (segments path).rdropWhile String.isEmpty = segments path := by
    obtain ⟨front, hfront⟩ := List.getLast?_eq_some_iff.mp hsegment
    rw [hfront, List.rdropWhile_concat_neg]
    simpa using hne
  rw [resolveLast_eq_step haccept, htrim, hsegment, bind_eq_ok_iff] at hfound
  obtain ⟨location, -, hlook⟩ := hfound
  obtain ⟨same, -, hlast⟩ := bind_eq_ok_iff.mp hlook
  obtain rfl := Except.ok.inj hlast
  have hspecial : isSpecial segment = true := isSpecial_eq_true_iff.mpr (Or.inl hblank)
  simp [hspecial] at hreplace

/-- What is replaced stands in a directory. -/
theorem standsIn_of_replaceFile (htidy : path.Tidy)
    (hchanged : fs.replaceFile path content = .ok changed) :
    ∃ location name, StandsIn fs path location name := by
  obtain ⟨⟨location, name⟩, hfound, hreplace⟩ := bind_eq_ok_iff.mp hchanged
  simp only at hreplace
  split at hreplace
  · contradiction
  next hspecial =>
    split at hreplace
    · contradiction
    next hshort =>
      exact ⟨location, name, standsIn_of_resolveLast htidy hfound (by simpa using hspecial)
        (Nat.not_lt.mp hshort)⟩

end AssetMenu.FileSystem
