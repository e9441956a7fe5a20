import AssetMenu.Proofs.FileSystem.Vacancy
import AssetMenu.Proofs.Generation.Endings
import AssetMenu.Template.UnityScript

/-!
# Runs that refuse their output path

Most of what is wrong with an output path is seen before anything is created.  But the
missing directories are created from the top, and a name that is too long, or a file
that two dots lead to, is met further down only.  The directories made so far are left
behind then, although the run refuses the path.
-/

namespace AssetMenu

open AssetMenu.Path

namespace OutputPath

variable {policy : DirectoryPolicy} {fs after : FileSystem} {path directory : Path}
  {error : OutputError}

/-- The path is found fit to be a target, its directory may be created, and above this directory
there is one that can be. -/
structure Begins (policy : DirectoryPolicy) (fs : FileSystem) (path : Path) : Prop where
  policy : policy = .create
  target : ∃ name, Target fs path name
  accepted : FileSystem.accept path.directory = .ok ()
  vacant : ∃ above ∈ path.directory.parents, fs.Vacant above

/-- A directory is refused as it is, or its creation breaks off. -/
theorem prepareDirectory_eq_error {fault : TargetFault}
    (hrefused : prepareDirectory policy fs directory = (.error fault, after)) :
    (after = fs ∧ (fs.contains directory = true ∨ policy = .requireExisting)) ∨
      policy = .create ∧
        ∃ cause, fs.createDirectories directory = (.error cause, after) := by
  unfold prepareDirectory at hrefused
  split at hrefused
  next hcontains =>
    obtain ⟨-, rfl⟩ := Prod.mk.inj hrefused
    exact Or.inl ⟨rfl, Or.inl hcontains⟩
  next =>
    cases policy with
    | requireExisting =>
        obtain ⟨-, rfl⟩ := Prod.mk.inj hrefused
        exact Or.inl ⟨rfl, Or.inr rfl⟩
    | create =>
        simp only at hrefused
        split at hrefused
        · simp at hrefused
        next cause changed hbroken =>
          obtain ⟨-, rfl⟩ := Prod.mk.inj hrefused
          exact Or.inr ⟨rfl, cause, hbroken⟩

/-- A path is refused before anything is created, or when the creation of its directory breaks
off. -/
theorem validate_eq_error (hrefused : validate policy fs path = (.error error, after)) :
    (after = fs ∧ ¬ Begins policy fs path) ∨
      policy = .create ∧ (∃ name, Target fs path name) ∧
        ∃ cause, fs.createDirectories path.directory = (.error cause, after) := by
  by_cases htarget : ∃ name, Target fs path name
  · obtain ⟨name, hname⟩ := htarget
    have hholds := holds_of_target hname
    rw [validate_of_target hname] at hrefused
    split at hrefused
    next fault changed hprepare =>
      obtain ⟨-, rfl⟩ := Prod.mk.inj hrefused
      rcases prepareDirectory_eq_error hprepare with ⟨hsame, hcause⟩ | ⟨hpolicy, hbroken⟩
      · refine Or.inl ⟨hsame, fun hbegins => ?_⟩
        obtain ⟨above, hmem, hvacant⟩ := hbegins.vacant
        have hmissing :=
          hvacant.contains_eq_false hholds.tidy (List.mem_cons_of_mem _ hmem)
        rcases hcause with hcontains | hpolicy
        · exact Bool.false_ne_true (hmissing.symm.trans hcontains)
        · exact absurd (hbegins.policy.symm.trans hpolicy) nofun
      · exact Or.inr ⟨hpolicy, ⟨name, hname⟩, hbroken⟩
    next => simp at hrefused
  · obtain ⟨fault, -, hvalidate⟩ := validate_of_not_target policy htarget
    obtain ⟨-, rfl⟩ := Prod.mk.inj (hvalidate.symm.trans hrefused)
    exact Or.inl ⟨rfl, fun hbegins => htarget hbegins.target⟩

/-- What a refused path leaves behind are directories on the way to the output. -/
theorem creates_of_validate_error (hrefused : validate policy fs path = (.error error, after)) :
    fs.Creates (path.directory :: path.directory.parents) after := by
  have hcreates := creates_validate policy fs path
  rwa [hrefused] at hcreates

/-- A refused path leaves something behind exactly if the creation of directories begins. -/
theorem validate_error_eq_self_iff
    (hrefused : validate policy fs path = (.error error, after)) :
    after = fs ↔ ¬ Begins policy fs path := by
  rcases validate_eq_error hrefused with ⟨hsame, hnot⟩ | ⟨hpolicy, htarget, cause, hbroken⟩
  · exact iff_of_true hsame hnot
  · obtain ⟨name, hname⟩ := htarget
    have hholds := holds_of_target hname
    rw [FileSystem.createDirectories_eq_self_iff hholds.tidy hholds.nonempty hbroken, not_iff_not]
    constructor
    · rintro ⟨haccept, hvacant⟩
      exact ⟨hpolicy, ⟨name, hname⟩, haccept, hvacant⟩
    · intro hbegins
      exact ⟨hbegins.accepted, hbegins.vacant⟩

/-- Short names that lead downwards leave nothing behind. -/
theorem validate_error_eq_self_of_usable
    (hrefused : validate policy fs path = (.error error, after))
    (husable : Usable path.directory) (hdownward : ".." ∉ path.directory.components) :
    after = fs := by
  rcases validate_eq_error hrefused with ⟨hsame, -⟩ | ⟨-, ⟨name, htarget⟩, cause, hbroken⟩
  · exact hsame
  · exact FileSystem.createDirectories_eq_self_of_usable (holds_of_target htarget).tidy husable
      hdownward hbroken

end OutputPath

namespace Generation

variable {generation : Generation} {fs after : FileSystem} {cause : OutputError}

/-- A run that refuses its output path leaves the file system as it was exactly if the creation
of directories does not begin.  What it leaves behind otherwise are directories on the way to the
output, and it takes a name or path that is too long, or two dots, to come to that. -/
theorem run_invalid_eq_self_iff
    (hrun : generation.run fs = (.error (.invalidOutputPath cause), after)) :
    (after = fs ↔
        ¬ OutputPath.Begins generation.config.policy fs generation.config.output) ∧
      fs.Creates (generation.config.output.directory ::
        generation.config.output.directory.parents) after ∧
      (Usable generation.config.output.directory →
        ".." ∉ generation.config.output.directory.components → after = fs) := by
  have hrefused := run_eq_invalid_iff.mp hrun
  exact ⟨OutputPath.validate_error_eq_self_iff hrefused,
    OutputPath.creates_of_validate_error hrefused,
    OutputPath.validate_error_eq_self_of_usable hrefused⟩

/-- A file at the top. -/
def fileAtTop : FileSystem :=
  ⟨[("Menus", .file ByteArray.empty)], []⟩

/-- A run without candidates whose output is to stand below the file, by a directory that is
missing. -/
def throughFile : Generation :=
  ⟨Config.ofOutput ⟨"new/../Menus/Menu.cs"⟩, [], Template.unityScript⟩

theorem validate_throughFile : (OutputPath.validate throughFile.config.policy fileAtTop
    throughFile.config.output).1.toOption = none := by
  decide +kernel

theorem run_throughFile :
    ∃ cause after, throughFile.run fileAtTop = (.error (.invalidOutputPath cause), after) ∧
      (after = fileAtTop ↔
        ¬ OutputPath.Begins throughFile.config.policy fileAtTop throughFile.config.output) ∧
      fileAtTop.Creates (throughFile.config.output.directory ::
        throughFile.config.output.directory.parents) after ∧
      (Usable throughFile.config.output.directory →
        ".." ∉ throughFile.config.output.directory.components → after = fileAtTop) := by
  obtain ⟨cause, hvalidate⟩ := exists_eq_error_of_eq_none validate_throughFile
  have hrun := run_eq_invalid_iff.mpr hvalidate
  exact ⟨cause, _, hrun, run_invalid_eq_self_iff hrun⟩

/-- The path is refused, but there is a new directory. -/
theorem run_throughFile_ne_self :
    ∃ cause after, throughFile.run fileAtTop = (.error (.invalidOutputPath cause), after) ∧
      after ≠ fileAtTop := by
  obtain ⟨cause, hvalidate⟩ := exists_eq_error_of_eq_none validate_throughFile
  refine ⟨cause, _, run_eq_invalid_iff.mpr hvalidate, ?_⟩
  have hbefore : fileAtTop.isDirectory ⟨"new"⟩ = false := by decide +kernel
  have hafter : (OutputPath.validate throughFile.config.policy fileAtTop
      throughFile.config.output).2.isDirectory ⟨"new"⟩ = true := by decide +kernel
  exact FileSystem.ne_of_isDirectory hbefore hafter

end Generation

end AssetMenu
