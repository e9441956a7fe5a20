import AssetMenu.Proofs.Output.Validation

/-!
# Checking the output path

A check looks for the nearest path above a missing directory that leads anywhere, and
asks for a directory there.  It refuses no path that can be accepted.  But it cannot
see that a path is too long, or that two dots lead to a file once the directories
before them are made.
-/

namespace AssetMenu

open AssetMenu.Path

namespace Path

variable {path found above : Path} {p : Path → Bool}

/-- What stands above a path and comes up in a search stands above the first that does. -/
theorem mem_parents_of_find? (hfound : path.parents.find? p = some found)
    (habove : above ∈ path.parents) (hp : p above = true) :
    above = found ∨ above ∈ found.parents := by
  induction path using inductionOnParent with
  | top path hparent => simp [parents_of_none hparent] at habove
  | below path parent hparent ih =>
      rw [parents_of_some hparent] at hfound habove
      cases hfirst : p parent with
      | true =>
          rw [List.find?_cons_of_pos hfirst] at hfound
          obtain rfl := Option.some.inj hfound
          exact List.mem_cons.mp habove
      | false =>
          rw [List.find?_cons_of_neg (by simp [hfirst])] at hfound
          have hrest : above ∈ parent.parents := by
            refine (List.mem_cons.mp habove).resolve_left ?_
            rintro rfl
            simp [hfirst] at hp
          exact ih hfound hrest

end Path

namespace FileSystem

variable {fs : FileSystem} {path : Path}

/-- The nearest path above that leads anywhere leads to a directory. -/
def ClearAbove (fs : FileSystem) (path : Path) : Prop :=
  ∀ existing, path.parents.find? fs.contains = some existing → fs.isDirectory existing = true

/-- In the tree as it is, no path above leads to a file then. -/
theorem not_obstructed_of_clearAbove (hclear : fs.ClearAbove path)
    (hmissing : fs.contains path = false) : ¬ fs.Obstructed path := by
  rintro ⟨above, hmem, content, hread⟩
  have hcontains := contains_of_readBytes hread
  rcases List.mem_cons.mp hmem with rfl | hparents
  · simp [hmissing] at hcontains
  · have hsome : (path.parents.find? fs.contains).isSome = true :=
      List.find?_isSome.mpr ⟨above, hparents, hcontains⟩
    obtain ⟨existing, hfound⟩ := Option.isSome_iff_exists.mp hsome
    refine not_obstructed_of_isDirectory (hclear existing hfound) ⟨above, ?_, content, hread⟩
    exact List.mem_cons.mpr (mem_parents_of_find? hfound hparents hcontains)

/-- A file that is in the way stays there. -/
theorem Grows.obstructed {after : FileSystem} (hgrows : fs.Grows after)
    (hobstructed : fs.Obstructed path) : after.Obstructed path := by
  obtain ⟨above, hmem, content, hread⟩ := hobstructed
  obtain ⟨location, hresolve, hfile⟩ := readBytes_eq_ok_iff.mp hread
  exact ⟨above, hmem, content, readBytes_eq_ok_iff.mpr
    ⟨location, hgrows.resolve hresolve, hgrows.kindAt?_eq_some hfile⟩⟩

theorem clearAbove_of_not_obstructed (hclear : ¬ fs.Obstructed path) : fs.ClearAbove path := by
  intro existing hfound
  have hcontains : fs.contains existing = true := List.find?_some hfound
  obtain ⟨location, hresolve⟩ := contains_iff.mp hcontains
  obtain ⟨kind, hkind⟩ := Option.ne_none_iff_exists'.mp (kindAt?_of_resolve hresolve)
  cases kind with
  | directory => exact isDirectory_iff.mpr ⟨location, hresolve, hkind⟩
  | file content =>
      exact absurd ⟨existing, List.mem_cons_of_mem _ (List.mem_of_find?_eq_some hfound), content,
        readBytes_eq_ok_iff.mpr ⟨location, hresolve, hkind⟩⟩ hclear

end FileSystem

namespace OutputPath

variable {policy : DirectoryPolicy} {fs : FileSystem} {path : Path} {name : String}

theorem checkMissing_eq_ok_iff {directory : Path} :
    checkMissing policy fs directory = .ok () ↔ policy = .create ∧ fs.ClearAbove directory := by
  cases policy with
  | requireExisting => simp [checkMissing]
  | create =>
      rw [checkMissing, FileSystem.ClearAbove]
      cases directory.parents.find? fs.contains with
      | none => simp
      | some existing => simp [checkDirectory_eq_ok_iff]

theorem prepareDirectory_fst_eq_ok_iff {directory : Path} :
    (prepareDirectory policy fs directory).1 = .ok () ↔
      if fs.contains directory = true then fs.isDirectory directory = true
      else policy = .create ∧ (fs.createDirectories directory).1 = .ok () := by
  unfold prepareDirectory
  split
  · exact checkDirectory_eq_ok_iff
  · cases policy with
    | requireExisting => simp
    | create => rcases fs.createDirectories directory with ⟨_ | _, changed⟩ <;> simp

theorem check_eq_ok_iff :
    check policy fs path = .ok () ↔ (∃ name, Target fs path name) ∧
      if fs.contains path.directory = true then fs.isDirectory path.directory = true
      else policy = .create ∧ fs.ClearAbove path.directory := by
  have hdirectory : (if fs.contains path.directory then checkDirectory fs path.directory
        else checkMissing policy fs path.directory) = .ok () ↔
      if fs.contains path.directory = true then fs.isDirectory path.directory = true
      else policy = .create ∧ fs.ClearAbove path.directory := by
    split
    · exact checkDirectory_eq_ok_iff
    · exact checkMissing_eq_ok_iff
  simp only [check, mapError_eq_ok_iff, bind_eq_ok_iff, checkTarget_eq_ok_iff, ← hdirectory]
  constructor
  · rintro ⟨directory, ⟨rfl, htarget⟩, hcheck⟩
    exact ⟨htarget, hcheck⟩
  · rintro ⟨htarget, hcheck⟩
    exact ⟨path.directory, ⟨rfl, htarget⟩, hcheck⟩

theorem validate_fst_eq_ok_iff :
    (∃ target, (validate policy fs path).1 = .ok target) ↔ (∃ name, Target fs path name) ∧
      if fs.contains path.directory = true then fs.isDirectory path.directory = true
      else policy = .create ∧ (fs.createDirectories path.directory).1 = .ok () := by
  by_cases htarget : ∃ name, Target fs path name
  · rw [← prepareDirectory_fst_eq_ok_iff, and_iff_right htarget]
    obtain ⟨name, htarget⟩ := htarget
    rw [validate_of_target htarget]
    rcases prepareDirectory policy fs path.directory with ⟨_ | _, changed⟩ <;> simp
  · obtain ⟨fault, -, hvalidate⟩ := validate_of_not_target policy htarget
    simp [hvalidate, htarget]

/-- A path that passes the check although it cannot be accepted: its directory is missing, the
nearest path above that leads anywhere leads to a directory, but the directory cannot be
made. -/
structure Misses (policy : DirectoryPolicy) (fs : FileSystem) (path : Path) : Prop where
  policy : policy = .create
  target : ∃ name, Target fs path name
  missing : fs.contains path.directory = false
  clear : fs.ClearAbove path.directory
  stopped : ¬ Usable path.directory ∨
    fs.kindAt? (fs.startOf path.directory) ≠ some .directory ∨
    (fs.createDirectories path.directory).2.Obstructed path.directory

theorem stopped_iff (htarget : ∃ name, Target fs path name) :
    (fs.createDirectories path.directory).1 ≠ .ok () ↔
      ¬ Usable path.directory ∨ fs.kindAt? (fs.startOf path.directory) ≠ some .directory ∨
        (fs.createDirectories path.directory).2.Obstructed path.directory := by
  obtain ⟨name, htarget⟩ := htarget
  have hholds := holds_of_target htarget
  rw [Ne, FileSystem.createDirectories_eq_ok_iff hholds.tidy hholds.nonempty]
  tauto

theorem grows_createDirectories (htarget : ∃ name, Target fs path name) :
    fs.Grows (fs.createDirectories path.directory).2 := by
  obtain ⟨name, htarget⟩ := htarget
  exact (FileSystem.creates_ensureChain (FileSystem.tidy_of_mem (holds_of_target htarget).tidy)
    fs).grows

/-- The check passes all that is accepted, and the paths that it misses. -/
theorem check_eq_ok_iff_misses :
    check policy fs path = .ok () ↔
      (∃ target, (validate policy fs path).1 = .ok target) ∨ Misses policy fs path := by
  rw [check_eq_ok_iff, validate_fst_eq_ok_iff]
  by_cases hthere : fs.contains path.directory = true
  · rw [if_pos hthere, if_pos hthere]
    refine ⟨Or.inl, fun hpassed => hpassed.resolve_right fun hmisses => ?_⟩
    exact Bool.false_ne_true (hmisses.missing.symm.trans hthere)
  rw [if_neg hthere, if_neg hthere]
  constructor
  · rintro ⟨htarget, hpolicy, hclear⟩
    by_cases hmade : (fs.createDirectories path.directory).1 = .ok ()
    · exact Or.inl ⟨htarget, hpolicy, hmade⟩
    · exact Or.inr ⟨hpolicy, htarget, by simpa using hthere, hclear,
        (stopped_iff htarget).mp hmade⟩
  · rintro (⟨htarget, hpolicy, hmade⟩ | hmisses)
    · refine ⟨htarget, hpolicy, FileSystem.clearAbove_of_not_obstructed fun hobstructed => ?_⟩
      exact (stopped_iff htarget).mpr
        (Or.inr (Or.inr ((grows_createDirectories htarget).obstructed hobstructed))) hmade
    · exact ⟨hmisses.target, hmisses.policy, hmisses.clear⟩

theorem Misses.not_accepted (hmisses : Misses policy fs path) :
    ¬ ∃ target, (validate policy fs path).1 = .ok target := by
  rw [validate_fst_eq_ok_iff, if_neg (by simp [hmisses.missing])]
  rintro ⟨-, -, hmade⟩
  exact (stopped_iff hmisses.target).mpr hmisses.stopped hmade

/-- A path is refused if it does not pass the check, and otherwise if the check misses it. -/
theorem validate_fst_eq_error_iff :
    (∃ error, (validate policy fs path).1 = .error error) ↔
      (∃ error, check policy fs path = .error error) ∨ Misses policy fs path := by
  have hrefused : (∃ error, (validate policy fs path).1 = .error error) ↔
      ¬ ∃ target, (validate policy fs path).1 = .ok target := by
    cases (validate policy fs path).1 <;> simp
  rw [hrefused]
  cases hcheck : check policy fs path with
  | error error =>
      refine iff_of_true (fun haccepted => ?_) (Or.inl ⟨error, rfl⟩)
      simp [check_eq_ok_iff_misses.mpr (Or.inl haccepted)] at hcheck
  | ok =>
      have hpassed := check_eq_ok_iff_misses.mp hcheck
      simp only [reduceCtorEq, exists_false, false_or]
      exact ⟨hpassed.resolve_left, Misses.not_accepted⟩

/-- Without two dots, what is in the way of a missing directory is there from the start, where
the check sees it. -/
theorem Misses.cause (hmisses : Misses policy fs path) :
    ¬ Usable path.directory ∨ fs.kindAt? (fs.startOf path.directory) ≠ some .directory ∨
      ".." ∈ path.directory.components := by
  rcases hmisses.stopped with hunusable | hstranded | hobstructed
  · exact Or.inl hunusable
  · exact Or.inr (Or.inl hstranded)
  · right; right
    by_contra hdownward
    exact FileSystem.not_obstructed_of_clearAbove hmisses.clear hmisses.missing
      (FileSystem.obstructed_of_grows (grows_createDirectories hmisses.target) hdownward
        hobstructed)

/-! ## No false alarm -/

/-- How the check of a path that names a file goes on. -/
theorem check_of_target (htarget : Target fs path name) :
    check policy fs path =
      (if fs.contains path.directory then checkDirectory fs path.directory
        else checkMissing policy fs path.directory).mapError (.invalidPath path) := by
  have hcheck := checkTarget_eq_ok_iff.mpr ⟨rfl, name, htarget⟩
  rw [check, hcheck]
  rfl

/-- What the path itself is refused for, the check and the validation refuse it for. -/
theorem check_of_checkTarget {fault : TargetFault} (hcheck : checkTarget fs path = .error fault) :
    check policy fs path = .error (.invalidPath path fault) := by
  rw [check, hcheck]
  rfl

/-- The answer of a validation is that of the preparation of the directory. -/
theorem validate_fst_of_target (htarget : Target fs path name) :
    (validate policy fs path).1 =
      ((prepareDirectory policy fs path.directory).1.mapError (.invalidPath path)).map
        fun _ => ⟨path⟩ := by
  rw [validate_of_target htarget]
  rcases prepareDirectory policy fs path.directory with ⟨_ | _, changed⟩ <;> rfl

theorem checkMissing_eq_error {directory : Path} {fault : TargetFault}
    (hcheck : checkMissing .create fs directory = .error fault) :
    ∃ existing, directory.parents.find? fs.contains = some existing ∧
      fault = .notInDirectory existing := by
  rw [checkMissing] at hcheck
  cases hfound : directory.parents.find? fs.contains with
  | none => simp [hfound] at hcheck
  | some existing =>
      simp only [hfound, checkDirectory] at hcheck
      split at hcheck
      next => simp at hcheck
      next => exact ⟨existing, rfl, (Except.error.inj hcheck).symm⟩

/-- A fault that the check finds above a missing directory is the nearest that is there and no
directory, and it stops the creation. -/
theorem prepareDirectory_of_checkMissing {fault : TargetFault} (htarget : Target fs path name)
    (hmissing : fs.contains path.directory = false)
    (hcheck : checkMissing .create fs path.directory = .error fault) :
    ∃ existing cause, path.directory.parents.find? fs.contains = some existing ∧
      fault = .notInDirectory existing ∧
      (prepareDirectory .create fs path.directory).1 =
        .error (.cannotCreate path.directory cause) := by
  have hunclear : ¬ fs.ClearAbove path.directory := fun hclear => by
    simp [checkMissing_eq_ok_iff.mpr ⟨rfl, hclear⟩] at hcheck
  have hobstructed : fs.Obstructed path.directory := by
    by_contra hnone
    exact hunclear (FileSystem.clearAbove_of_not_obstructed hnone)
  have hstopped : (fs.createDirectories path.directory).1 ≠ .ok () :=
    (stopped_iff ⟨name, htarget⟩).mpr
      (Or.inr (Or.inr ((grows_createDirectories ⟨name, htarget⟩).obstructed hobstructed)))
  obtain ⟨existing, hexisting, rfl⟩ := checkMissing_eq_error hcheck
  rcases hmade : fs.createDirectories path.directory with ⟨cause | _, changed⟩
  · refine ⟨existing, cause, hexisting, rfl, ?_⟩
    simp only [prepareDirectory, hmissing, Bool.false_eq_true, if_false, hmade]
  · simp [hmade] at hstopped

/-- Where nothing is to be made, the check and the validation give one answer. -/
theorem validate_fst_eq_check
    (hmakes : policy = .requireExisting ∨ fs.contains path.directory = true) :
    (validate policy fs path).1 = (check policy fs path).map fun _ => ⟨path⟩ := by
  by_cases htarget : ∃ name, Target fs path name
  · obtain ⟨name, htarget⟩ := htarget
    rw [validate_fst_of_target htarget, check_of_target htarget, prepareDirectory_eq_check hmakes]
  · obtain ⟨fault, hcheck, hvalidate⟩ := validate_of_not_target policy htarget
    rw [check_of_checkTarget hcheck, hvalidate]
    rfl

/-- How the validation may word what the check has found: the nearest path above that is there
is no directory, so the missing ones cannot be made. -/
def Rewords (fs : FileSystem) (path : Path) (checked validated : TargetFault) : Prop :=
  validated = checked ∨
    ∃ existing cause, path.directory.parents.find? fs.contains = some existing ∧
      checked = .notInDirectory existing ∧ validated = .cannotCreate path.directory cause

/-- Where directories are to be made, the validation refuses what the check refuses. -/
theorem validate_create_of_check {error : OutputError}
    (hmissing : fs.contains path.directory = false)
    (hcheck : check .create fs path = .error error) :
    ∃ checked validated, error = .invalidPath path checked ∧
      (validate .create fs path).1 = .error (.invalidPath path validated) ∧
      Rewords fs path checked validated := by
  by_cases htarget : ∃ name, Target fs path name
  · obtain ⟨name, htarget⟩ := htarget
    rw [check_of_target htarget, hmissing, if_neg Bool.false_ne_true,
      mapError_eq_error_iff] at hcheck
    obtain ⟨fault, hfault, rfl⟩ := hcheck
    obtain ⟨existing, cause, hexisting, rfl, hprepare⟩ :=
      prepareDirectory_of_checkMissing htarget hmissing hfault
    refine ⟨_, _, rfl, ?_, Or.inr ⟨existing, cause, hexisting, rfl, rfl⟩⟩
    rw [validate_fst_of_target htarget, hprepare]
    rfl
  · obtain ⟨fault, hfault, hvalidate⟩ := validate_of_not_target .create htarget
    rw [check_of_checkTarget hfault] at hcheck
    obtain rfl := Except.error.inj hcheck
    exact ⟨fault, fault, rfl, by rw [hvalidate], Or.inl rfl⟩

/-- Where nothing is to be made, the check answers what the validation answers.  In any case, a
path that does not pass the check is refused by the validation, and for the same fault, or
because a path above it that the check has found to be no directory stops the creation. -/
theorem check_gives_no_false_alarm (policy : DirectoryPolicy) (fs : FileSystem) (path : Path) :
    (policy = .requireExisting ∨ fs.contains path.directory = true →
      (validate policy fs path).1 = (check policy fs path).map fun _ => ⟨path⟩) ∧
    ∀ error, check policy fs path = .error error →
      ∃ checked validated, error = .invalidPath path checked ∧
        (validate policy fs path).1 = .error (.invalidPath path validated) ∧
        Rewords fs path checked validated := by
  refine ⟨validate_fst_eq_check, fun error hcheck => ?_⟩
  by_cases hmakes : policy = .requireExisting ∨ fs.contains path.directory = true
  · obtain ⟨fault, -, rfl⟩ := mapError_eq_error_iff.mp hcheck
    refine ⟨fault, fault, rfl, ?_, Or.inl rfl⟩
    rw [validate_fst_eq_check hmakes, hcheck]
    rfl
  · obtain ⟨hpolicy, hmissing⟩ := not_or.mp hmakes
    cases policy with
    | requireExisting => contradiction
    | create => exact validate_create_of_check (Bool.eq_false_iff.mpr hmissing) hcheck

/-- A file at the top, where a directory is needed. -/
def blockedTree : FileSystem :=
  ⟨[("blocker", .file "not a directory".toUTF8)], []⟩

/-- An output file two directories further down. -/
def blockedFile : Path :=
  ⟨"blocker/sub/Menu.cs"⟩

theorem check_blockedFile :
    (validate .requireExisting blockedTree blockedFile).1 =
        (check .requireExisting blockedTree blockedFile).map (fun _ => ⟨blockedFile⟩) ∧
      ∃ error, check .create blockedTree blockedFile = .error error ∧
        ∃ checked validated, error = .invalidPath blockedFile checked ∧
          (validate .create blockedTree blockedFile).1 =
            .error (.invalidPath blockedFile validated) ∧
          Rewords blockedTree blockedFile checked validated := by
  refine ⟨(check_gives_no_false_alarm .requireExisting _ _).1 (Or.inl rfl), ?_⟩
  obtain ⟨error, hcheck⟩ : ∃ error, check .create blockedTree blockedFile = .error error :=
    exists_eq_error_of_toOption (by decide +kernel)
  exact ⟨error, hcheck, (check_gives_no_false_alarm .create _ _).2 error hcheck⟩

end OutputPath

end AssetMenu
