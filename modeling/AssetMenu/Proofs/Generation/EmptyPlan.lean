import AssetMenu.Proofs.Generation.Endings
import AssetMenu.Template.UnityScript

/-!
# Runs without entries

The output path is accepted before there is a plan.  So a run that has nothing to
write makes the directory of its output all the same, and leaves everything else
alone.
-/

namespace AssetMenu.Generation

variable {generation : Generation} {fs after : FileSystem} {result : GenerationResult}

/-- A run without entries ends where the acceptance of its output path ends. -/
theorem accepted_of_run (hempty : generation.plan.isEmpty = true)
    (hrun : generation.run fs = (.ok result, after)) :
    result.outcome = none ∧
      OutputPath.Accepted generation.config.policy fs generation.config.output after := by
  cases run_eq_iff.mp hrun with
  | idle _ hvalidate => exact ⟨rfl, (OutputPath.accepted_of_validate hvalidate).2⟩
  | written outcome made _ _ hplan => exact absurd (hempty.symm.trans hplan) nofun

/-- A run without entries leaves the file system as it was exactly if the directory of its
output was there.  Otherwise it makes this directory and those above it, and no more. -/
theorem run_eq_self_iff (hempty : generation.plan.isEmpty = true)
    (hrun : generation.run fs = (.ok result, after)) :
    result.outcome = none ∧
      (after = fs ↔ fs.isDirectory generation.config.output.directory = true) ∧
      (generation.config.policy = .requireExisting → after = fs) ∧
      fs.Creates (generation.config.output.directory ::
        generation.config.output.directory.parents) after := by
  obtain ⟨houtcome, haccepted⟩ := accepted_of_run hempty hrun
  refine ⟨houtcome, ⟨?_, fun hdirectory => ?_⟩, fun hpolicy => haccepted.same (Or.inl hpolicy),
    haccepted.creates⟩
  · rintro rfl
    exact haccepted.directory
  · exact haccepted.same (Or.inr (FileSystem.contains_of_isDirectory hdirectory))

/-- A run without candidates whose output is to stand in a directory of its own. -/
def withoutCandidates : Generation :=
  ⟨Config.ofOutput ⟨"new/Menu.cs"⟩, [], Template.unityScript⟩

theorem run_withoutCandidates :
    withoutCandidates.plan.isEmpty = true ∧ ∃ result after,
      withoutCandidates.run ⟨[], []⟩ = (.ok result, after) ∧ result.outcome = none ∧
        (after = ⟨[], []⟩ ↔ FileSystem.isDirectory ⟨[], []⟩ ⟨"new"⟩ = true) := by
  have hempty : withoutCandidates.plan.isEmpty = true := rfl
  have hok : (withoutCandidates.run ⟨[], []⟩).1.toOption.isSome = true := by decide +kernel
  obtain ⟨result, hrun⟩ := exists_eq_ok_of_isSome hok
  have hrun_eq := run_eq_self_iff hempty hrun
  have hdirectory : withoutCandidates.config.output.directory = ⟨"new"⟩ := by decide +kernel
  rw [hdirectory] at hrun_eq
  exact ⟨hempty, result, _, hrun, hrun_eq.1, hrun_eq.2.1⟩

/-- Nothing is written, but there is a new directory. -/
theorem run_withoutCandidates_ne_self :
    withoutCandidates.plan.isEmpty = true ∧
      (withoutCandidates.run ⟨[], []⟩).1.toOption.isSome = true ∧
      (withoutCandidates.run ⟨[], []⟩).2 ≠ ⟨[], []⟩ := by
  refine ⟨rfl, by decide +kernel, fun hsame => ?_⟩
  have hafter : (withoutCandidates.run ⟨[], []⟩).2.isDirectory ⟨"new"⟩ = true := by
    decide +kernel
  have hbefore : FileSystem.isDirectory ⟨[], []⟩ ⟨"new"⟩ = false := by decide +kernel
  simp [hsame, hbefore] at hafter

end AssetMenu.Generation
