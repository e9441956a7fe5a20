import AssetMenu.Output
import AssetMenu.Proofs.FileSystem.Obstruction
import AssetMenu.Proofs.FileSystem.Replacement

/-!
# Accepting the output path

What is demanded of an output path is demanded of the file system as it is at the
start, and the directory of the file is made afterwards.  So an accepted path has
a directory, but what the path itself leads to may have changed with the directories
that were made.
-/

namespace AssetMenu.OutputPath

open AssetMenu.Path

variable {policy : DirectoryPolicy} {fs after : FileSystem} {path directory : Path}
  {target : OutputPath}

/-- A path that names a file, and does not lead to a directory. -/
structure Target (fs : FileSystem) (path : Path) (name : String) : Prop where
  nonempty : path.isEmpty = false
  noSlash : path.endsWithSlash = false
  named : path.lastComponent = .name name
  noNul : '\x00' ∉ name.toList
  notDirectory : fs.isDirectory path = false

theorem checkTarget_eq_ok_iff :
    checkTarget fs path = .ok directory ↔
      directory = path.directory ∧ ∃ name, Target fs path name := by
  have htarget : (∃ name, Target fs path name) ↔
      path.isEmpty = false ∧ path.endsWithSlash = false ∧ (∃ name, path.lastComponent = .name name ∧
        '\x00' ∉ name.toList) ∧ fs.isDirectory path = false := by
    constructor
    · rintro ⟨name, hnonempty, hslash, hnamed, hnul, hdirectory⟩
      exact ⟨hnonempty, hslash, ⟨name, hnamed, hnul⟩, hdirectory⟩
    · rintro ⟨hnonempty, hslash, ⟨name, hnamed, hnul⟩, hdirectory⟩
      exact ⟨name, hnonempty, hslash, hnamed, hnul, hdirectory⟩
  rw [htarget, checkTarget]
  split
  next hempty => simp [hempty]
  next hempty =>
    split
    next hslash => simp [hslash]
    next hslash =>
      split
      next name hname =>
        split
        next hnul => simp [hname, List.contains_iff_mem.mp hnul]
        next hnul =>
          rw [List.contains_iff_mem] at hnul
          split
          next hdirectory => simp [hdirectory]
          next hdirectory => simp [hempty, hslash, hname, hnul, hdirectory, eq_comm]
      next hother =>
        simp only [reduceCtorEq, false_iff, not_and]
        rintro - - - ⟨name, hname, -⟩
        exact absurd hname (hother name)

/-- What is known of a path that was accepted. -/
structure Accepted (policy : DirectoryPolicy) (before : FileSystem) (path : Path)
    (after : FileSystem) : Prop where
  target : ∃ name, Target before path name
  directory : after.isDirectory path.directory = true
  creates : before.Creates (path.directory :: path.directory.parents) after
  same : policy = .requireExisting ∨ before.contains path.directory = true → after = before

/-- However the preparation of a directory ends, it only adds directories. -/
theorem creates_prepareDirectory (policy : DirectoryPolicy) (fs : FileSystem)
    (htidy : directory.Tidy) :
    fs.Creates (directory :: directory.parents) (prepareDirectory policy fs directory).2 := by
  unfold prepareDirectory
  split
  · exact FileSystem.creates_refl fs _
  · cases policy with
    | requireExisting => exact FileSystem.creates_refl fs _
    | create =>
        have hcreates := FileSystem.creates_ensureChain (FileSystem.tidy_of_mem htidy) fs
        simp only [FileSystem.createDirectories]
        split <;> simp_all

theorem checkDirectory_eq_ok_iff :
    checkDirectory fs directory = .ok () ↔ fs.isDirectory directory = true := by
  rw [checkDirectory]
  split <;> simp_all

/-- Where nothing is to be made, the preparation asks what a check asks, and changes nothing. -/
theorem prepareDirectory_eq_check
    (hmakes : policy = .requireExisting ∨ fs.contains directory = true) :
    prepareDirectory policy fs directory =
      (if fs.contains directory then checkDirectory fs directory
        else checkMissing policy fs directory, fs) := by
  unfold prepareDirectory
  split
  next => rfl
  next hmissing =>
    obtain rfl := hmakes.resolve_right hmissing
    rfl

theorem prepareDirectory_eq_ok (htidy : directory.Tidy) (hne : directory.isEmpty = false)
    (hprepare : prepareDirectory policy fs directory = (.ok (), after)) :
    after.isDirectory directory = true ∧
      (policy = .requireExisting ∨ fs.contains directory = true → after = fs) := by
  unfold prepareDirectory at hprepare
  split at hprepare
  next hcontains =>
    obtain ⟨hcheck, rfl⟩ := Prod.mk.inj hprepare
    exact ⟨checkDirectory_eq_ok_iff.mp hcheck, fun _ => rfl⟩
  next hcontains =>
    cases policy with
    | requireExisting => simp at hprepare
    | create =>
        simp only at hprepare
        split at hprepare
        next changed hchain =>
          obtain ⟨-, rfl⟩ := Prod.mk.inj hprepare
          exact ⟨FileSystem.isDirectory_of_ensureChain htidy hne hchain, by simp [hcontains]⟩
        next => simp at hprepare

theorem validate_of_target {name : String} (htarget : Target fs path name) :
    validate policy fs path =
      match prepareDirectory policy fs path.directory with
      | (.error fault, changed) => (.error (.invalidPath path fault), changed)
      | (.ok (), changed) => (.ok ⟨path⟩, changed) := by
  have hcheck := checkTarget_eq_ok_iff.mpr ⟨rfl, name, htarget⟩
  rcases hprepare : prepareDirectory policy fs path.directory with ⟨fault | _, changed⟩
  · simp only [validate, hcheck, hprepare]
  · simp only [validate, hcheck, hprepare]

theorem validate_of_not_target (policy : DirectoryPolicy)
    (htarget : ¬ ∃ name, Target fs path name) :
    ∃ fault, checkTarget fs path = .error fault ∧
      validate policy fs path = (.error (.invalidPath path fault), fs) := by
  cases hcheck : checkTarget fs path with
  | ok directory => exact absurd (checkTarget_eq_ok_iff.mp hcheck).2 htarget
  | error fault => exact ⟨fault, rfl, by rw [validate, hcheck]⟩

theorem holds_of_target {name : String} (htarget : Target fs path name) :
    Holds path.directory path name :=
  holds_directory htarget.named

/-- A path starts where its directory starts. -/
theorem startOf_directory {before : FileSystem} {name : String}
    (htarget : Target before path name) (fs : FileSystem) :
    fs.startOf path.directory = fs.startOf path := by
  rw [FileSystem.startOf, FileSystem.startOf, (holds_of_target htarget).isAbsolute]

theorem validate_snd_of_target {name : String} (htarget : Target fs path name) :
    (validate policy fs path).2 = (prepareDirectory policy fs path.directory).2 := by
  rw [validate_of_target htarget]
  rcases prepareDirectory policy fs path.directory with ⟨_ | _, changed⟩ <;> rfl

/-- However the validation ends, it only adds directories on the way to the file. -/
theorem creates_validate (policy : DirectoryPolicy) (fs : FileSystem) (path : Path) :
    fs.Creates (path.directory :: path.directory.parents) (validate policy fs path).2 := by
  by_cases htarget : ∃ name, Target fs path name
  · obtain ⟨name, htarget⟩ := htarget
    rw [validate_snd_of_target htarget]
    exact creates_prepareDirectory policy fs (holds_of_target htarget).tidy
  · obtain ⟨fault, -, hvalidate⟩ := validate_of_not_target policy htarget
    rw [hvalidate]
    exact FileSystem.creates_refl fs _

theorem grows_validate (policy : DirectoryPolicy) (fs : FileSystem) (path : Path) :
    fs.Grows (validate policy fs path).2 :=
  (creates_validate policy fs path).grows

theorem accepted_of_validate (hvalid : validate policy fs path = (.ok target, after)) :
    target = ⟨path⟩ ∧ Accepted policy fs path after := by
  have hcreates := creates_validate policy fs path
  rw [hvalid] at hcreates
  by_cases htarget : ∃ name, Target fs path name
  · obtain ⟨name, htarget⟩ := htarget
    have hholds := holds_of_target htarget
    rw [validate_of_target htarget] at hvalid
    split at hvalid
    · simp at hvalid
    next changed hprepare =>
      obtain ⟨htarget', rfl⟩ := Prod.mk.inj hvalid
      obtain ⟨hdirectory, hsame⟩ := prepareDirectory_eq_ok hholds.tidy hholds.nonempty hprepare
      exact ⟨(Except.ok.inj htarget').symm, ⟨name, htarget⟩, hdirectory, hcreates, hsame⟩
  · obtain ⟨fault, -, hvalidate⟩ := validate_of_not_target policy htarget
    simp [hvalidate] at hvalid

theorem accepted_of_validate_fst (hok : (validate policy fs path).1 = .ok target) :
    target = ⟨path⟩ ∧ Accepted policy fs path (validate policy fs path).2 :=
  accepted_of_validate (Prod.ext hok rfl)

/-- Nothing is made for a path that cannot be a target, nor where nothing may or need be made. -/
theorem validate_snd_eq_self
    (hmakes : policy = .requireExisting ∨ (∃ fault, checkTarget fs path = .error fault) ∨
      fs.contains path.directory = true) : (validate policy fs path).2 = fs := by
  by_cases htarget : ∃ name, Target fs path name
  · obtain ⟨name, htarget⟩ := htarget
    have hpasses : ¬ ∃ fault, checkTarget fs path = .error fault := by
      rw [checkTarget_eq_ok_iff.mpr ⟨rfl, name, htarget⟩]
      simp
    rw [validate_snd_of_target htarget,
      prepareDirectory_eq_check (hmakes.imp_right fun hmakes => hmakes.resolve_left hpasses)]
  · obtain ⟨fault, -, hvalidate⟩ := validate_of_not_target policy htarget
    rw [hvalidate]

/-- However the validation ends, what was there is there as it was, what is new are directories
that the directory of the file or a path above it leads to, without a file in them, and if the
path is accepted, its directory is there. -/
theorem validate_only_adds_directories (policy : DirectoryPolicy) (fs : FileSystem) (path : Path) :
    fs.Creates (path.directory :: path.directory.parents) (validate policy fs path).2 ∧
    (∀ location, fs.kindAt? location = none → ∀ below content,
      (validate policy fs path).2.kindAt? (location ++ below) ≠ some (.file content)) ∧
    (policy = .requireExisting ∨ (∃ fault, checkTarget fs path = .error fault) ∨
      fs.contains path.directory = true → (validate policy fs path).2 = fs) ∧
    ∀ target, (validate policy fs path).1 = .ok target →
      target = ⟨path⟩ ∧ (validate policy fs path).2.isDirectory path.directory = true := by
  have hcreates := creates_validate policy fs path
  refine ⟨hcreates, fun location => hcreates.grows.kindAt?_append_ne_file, validate_snd_eq_self, ?_⟩
  intro target hok
  obtain ⟨htarget, haccepted⟩ := accepted_of_validate_fst hok
  exact ⟨htarget, haccepted.directory⟩

/-- A file at the top. -/
def notesTree : FileSystem :=
  ⟨[("notes", .file "kept".toUTF8)], []⟩

/-- An output file in a missing directory, by way of another. -/
def sideways : Path :=
  ⟨"a/../b/Menu.cs"⟩

theorem validate_sideways :
    notesTree.Creates (sideways.directory :: sideways.directory.parents)
        (validate .create notesTree sideways).2 ∧
      (∀ location, notesTree.kindAt? location = none → ∀ below content,
        (validate .create notesTree sideways).2.kindAt? (location ++ below) ≠
          some (.file content)) ∧
      (validate .requireExisting notesTree sideways).2 = notesTree ∧
      ∃ target, (validate .create notesTree sideways).1 = .ok target ∧ target = ⟨sideways⟩ ∧
        (validate .create notesTree sideways).2.isDirectory sideways.directory = true := by
  obtain ⟨hcreates, hempty, -, haccepted⟩ :=
    validate_only_adds_directories .create notesTree sideways
  have hok : (validate .create notesTree sideways).1 = .ok ⟨sideways⟩ :=
    eq_ok_of_toOption (by decide +kernel)
  exact ⟨hcreates, hempty,
    (validate_only_adds_directories .requireExisting notesTree sideways).2.2.1 (Or.inl rfl),
    _, hok, haccepted _ hok⟩

/-! ## Without two dots -/

/-- A path without two dots leads to no directory that was not there before it was
accepted: the new ones are all above it. -/
theorem Accepted.isDirectory_eq_false (haccepted : Accepted policy fs path after)
    (hdownward : ".." ∉ path.components) : after.isDirectory path = false := by
  obtain ⟨name, htarget⟩ := haccepted.target
  have hholds := holds_of_target htarget
  have hgrows := haccepted.creates.grows
  rw [Bool.eq_false_iff]
  intro hdirectory
  obtain ⟨location, hresolve, hkind⟩ := FileSystem.isDirectory_iff.mp hdirectory
  by_cases hthere : fs.kindAt? location = none
  · obtain ⟨above, hmem, habove⟩ := haccepted.creates.new location hthere (by simp [hkind])
    have hrelated := FileSystem.above_of_mem hholds.tidy hmem
    have hne : above.isEmpty = false := FileSystem.isEmpty_of_resolve habove
    have hbegins : above.components <+: path.components := by
      rw [hholds.components]
      exact hrelated.components.trans (List.prefix_append _ _)
    have hstart : after.startOf above = after.startOf path := by
      rw [FileSystem.startOf_eq_of_isPrefix after hrelated.written hne, FileSystem.startOf,
        FileSystem.startOf, hholds.isAbsolute]
    have hplace := FileSystem.location_eq_of_resolve hdownward hresolve
    rw [FileSystem.location_eq_of_resolve (fun hdots => hdownward (hbegins.subset hdots)) habove,
      hstart, List.append_cancel_left_eq] at hplace
    have hlength := hrelated.components.length_le
    rw [hplace, hholds.components, List.length_append, List.length_singleton] at hlength
    omega
  · have hbefore := hgrows.resolve_of_downward hdownward hresolve hthere
    have hdirectory := FileSystem.isDirectory_iff.mpr
      ⟨location, hbefore, (hgrows.kept _ hthere).symm.trans hkind⟩
    simp [htarget.notDirectory] at hdirectory

end AssetMenu.OutputPath
