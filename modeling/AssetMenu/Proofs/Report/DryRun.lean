import AssetMenu.Proofs.Generation.Endings
import AssetMenu.Proofs.Output.Checking
import AssetMenu.Report.Generate

/-!
# Dry runs

A run starts with the acceptance of its output path, a dry run with the check of it,
and no other step of either finds fault with the path.  So a dry run refuses the path
wherever the run would, apart from the paths that the check misses.
-/

namespace AssetMenu

open OutputPath

variable {fs : FileSystem} {cause : OutputError}

theorem Generation.run_fst_eq_error_iff {generation : Generation} :
    (generation.run fs).1 = .error (.invalidOutputPath cause) ↔
      (validate generation.config.policy fs generation.config.output).1 = .error cause := by
  constructor
  · intro hrun
    rw [run_eq_invalid_iff.mp (Prod.ext hrun rfl)]
  · intro hrefused
    rw [run_eq_invalid_iff.mpr (Prod.ext hrefused rfl)]

namespace GenerateReport

variable {file : ManifestFile} {overrides : Overrides}

/-- The settings of a run on a manifest file. -/
def configOf (file : ManifestFile) (overrides : Overrides) : Config :=
  (generation file overrides).config

/-- A dry run refuses an output path that does not pass the check. -/
theorem make_true_fst_eq_error_iff :
    (make file overrides true fs).1 = .error (.invalidOutputPath cause) ↔
      check (configOf file overrides).policy fs (configOf file overrides).output =
        .error cause := by
  rw [make, if_pos rfl, dryRun]
  simp only [Generation.checkOutput, configOf]
  cases check (generation file overrides).config.policy fs (generation file overrides).config.output
    <;> simp [bind, Except.bind]

/-- A run refuses an output path that is not accepted. -/
theorem make_false_fst_eq_error_iff :
    (make file overrides false fs).1 = .error (.invalidOutputPath cause) ↔
      (validate (configOf file overrides).policy fs (configOf file overrides).output).1 =
        .error cause := by
  rw [configOf, ← Generation.run_fst_eq_error_iff, make, if_neg Bool.false_ne_true, realRun]
  rcases (generation file overrides).run fs with ⟨error | done, changed⟩ <;> simp

/-- The output path does not pass the check of a dry run, or is not accepted by a run. -/
def RefusesPath (file : ManifestFile) (overrides : Overrides) (fs : FileSystem)
    (cause : OutputError) (isDryRun : Bool) : Prop :=
  let config := configOf file overrides
  match isDryRun with
  | true => check config.policy fs config.output = .error cause
  | false => (validate config.policy fs config.output).1 = .error cause

theorem make_fst_eq_error_iff {isDryRun : Bool} :
    (make file overrides isDryRun fs).1 = .error (.invalidOutputPath cause) ↔
      RefusesPath file overrides fs cause isDryRun := by
  cases isDryRun with
  | true => exact make_true_fst_eq_error_iff
  | false => exact make_false_fst_eq_error_iff

/-- A run refuses its output path exactly if the dry run does or the check misses the path.  What
the check misses is a missing directory whose path cannot be followed in any tree, or starts at
a place that is no directory, or has two dots in it. -/
theorem make_refuses_iff (file : ManifestFile) (overrides : Overrides) (fs : FileSystem) :
    ((∃ cause, (make file overrides false fs).1 = .error (.invalidOutputPath cause)) ↔
        (∃ cause, (make file overrides true fs).1 = .error (.invalidOutputPath cause)) ∨
          Misses (configOf file overrides).policy fs (configOf file overrides).output) ∧
      (∀ policy path, (∃ error, (validate policy fs path).1 = .error error) ↔
        (∃ error, check policy fs path = .error error) ∨ Misses policy fs path) ∧
      ∀ policy path, Misses policy fs path →
        check policy fs path = .ok () ∧ fs.contains path.directory = false ∧
          (¬ Usable path.directory ∨
            fs.kindAt? (fs.startOf path.directory) ≠ some .directory ∨
            ".." ∈ path.directory.components) := by
  refine ⟨?_, fun policy path => validate_fst_eq_error_iff, fun policy path hmisses => ?_⟩
  · simp only [make_true_fst_eq_error_iff, make_false_fst_eq_error_iff]
    exact validate_fst_eq_error_iff
  · exact ⟨check_eq_ok_iff_misses.mpr (Or.inr hmisses), hmisses.missing, hmisses.cause⟩

/-- A manifest file without types. -/
def bareFile : ManifestFile :=
  ⟨⟨Manifest.fileName⟩, "", ⟨⟨⟨"Menu.cs"⟩, 0, Affixes.none, defaultBaseType, true⟩, []⟩⟩

/-- The settings with an output below a file, by a directory that is missing. -/
def belowFile : Overrides :=
  { Overrides.none with output := some ⟨"new/../file/Menu.cs"⟩ }

/-- A file at the top. -/
def oneFile : FileSystem :=
  ⟨[("file", .file ByteArray.empty)], []⟩

/-- The dry run passes where the run refuses the output path. -/
theorem make_belowFile :
    (make bareFile belowFile true oneFile).1.toOption.isSome = true ∧
      ∃ cause, (make bareFile belowFile false oneFile).1 = .error (.invalidOutputPath cause) := by
  refine ⟨by decide +kernel, ?_⟩
  simp only [make_false_fst_eq_error_iff]
  exact exists_eq_error_of_toOption (by decide +kernel)

end GenerateReport

end AssetMenu
