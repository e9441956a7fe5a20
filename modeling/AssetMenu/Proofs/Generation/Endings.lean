import AssetMenu.Generation
import AssetMenu.Proofs.Output.Validation

/-!
# The ways in which a run ends

A run breaks off when its output path is refused or its text cannot be written.  Else
it comes to its end, with its text in place or with nothing to write.  What comes of
each step is stated here once, so that no later argument has to follow the steps.
-/

namespace AssetMenu.Generation

variable {generation : Generation} {fs after : FileSystem} {cause : OutputError}

/-- The plan with the note that there is nothing to write. -/
def idlePlan (generation : Generation) : Plan :=
  { generation.plan with
    findings := generation.plan.findings ++ [nothingFinding generation.config.output] }

/-- A run can end with this answer and leave this file system behind. -/
inductive Ends (generation : Generation) (fs : FileSystem) :
    Except GenerationError GenerationResult → FileSystem → Prop where
  | refused (cause : OutputError) (made : FileSystem)
      (hvalidate : OutputPath.validate generation.config.policy fs generation.config.output =
        (.error cause, made)) :
      Ends generation fs (.error (.invalidOutputPath cause)) made
  | idle (made : FileSystem)
      (hvalidate : OutputPath.validate generation.config.policy fs generation.config.output =
        (.ok ⟨generation.config.output⟩, made))
      (hplan : generation.plan.isEmpty = true) :
      Ends generation fs (.ok ⟨generation.config.output, none, generation.idlePlan⟩) made
  | failed (cause : OutputError) (made after : FileSystem)
      (hvalidate : OutputPath.validate generation.config.policy fs generation.config.output =
        (.ok ⟨generation.config.output⟩, made))
      (hplan : generation.plan.isEmpty = false)
      (hwrite : OutputPath.write made ⟨generation.config.output⟩
        (generation.emit generation.plan) = (.error cause, after)) :
      Ends generation fs (.error (.writeFailure cause)) after
  | written (outcome : WriteOutcome) (made after : FileSystem)
      (hvalidate : OutputPath.validate generation.config.policy fs generation.config.output =
        (.ok ⟨generation.config.output⟩, made))
      (hplan : generation.plan.isEmpty = false)
      (hwrite : OutputPath.write made ⟨generation.config.output⟩
        (generation.emit generation.plan) = (.ok outcome, after)) :
      Ends generation fs (.ok ⟨generation.config.output, some outcome, generation.plan⟩) after

theorem ends_run (generation : Generation) (fs : FileSystem) :
    Ends generation fs (generation.run fs).1 (generation.run fs).2 := by
  rw [run]
  rcases hvalidate : OutputPath.validate generation.config.policy fs generation.config.output with
    ⟨cause | target, made⟩
  case error => exact .refused cause made hvalidate
  case ok =>
    obtain ⟨rfl, -⟩ := OutputPath.accepted_of_validate hvalidate
    cases hplan : generation.plan.isEmpty with
    | true =>
        simp only [hplan, if_true]
        exact .idle made hvalidate hplan
    | false =>
        rcases hwrite : OutputPath.write made ⟨generation.config.output⟩
          (generation.emit generation.plan) with ⟨cause | outcome, after⟩
        all_goals simp only [hplan, hwrite, Bool.false_eq_true, if_false]
        case error => exact .failed cause made after hvalidate hplan hwrite
        case ok => exact .written outcome made after hvalidate hplan hwrite

theorem run_eq_iff {answer : Except GenerationError GenerationResult} :
    generation.run fs = (answer, after) ↔ Ends generation fs answer after := by
  constructor
  · intro hrun
    have hends := ends_run generation fs
    rwa [hrun] at hends
  · intro hends
    cases hends with
    | refused cause _ hvalidate => simp only [run, hvalidate]
    | idle _ hvalidate hplan => simp only [run, hvalidate, hplan, if_true, idlePlan]
    | failed cause made _ hvalidate hplan hwrite =>
        simp only [run, hvalidate, hplan, hwrite, Bool.false_eq_true, if_false]
    | written outcome made _ hvalidate hplan hwrite =>
        simp only [run, hvalidate, hplan, hwrite, Bool.false_eq_true, if_false]

theorem run_eq_invalid_iff :
    generation.run fs = (.error (.invalidOutputPath cause), after) ↔
      OutputPath.validate generation.config.policy fs generation.config.output =
        (.error cause, after) := by
  rw [run_eq_iff]
  constructor
  · rintro ⟨_, _, hvalidate⟩
    exact hvalidate
  · exact .refused cause after

end AssetMenu.Generation
