import AssetMenu.Emission
import AssetMenu.Plan

/-!
# Runs

A run accepts the output path, plans, and writes the text.  If there are no
entries, the output file stays as it is, even one from an earlier run.
-/

namespace AssetMenu

/-- Why a run came to nothing. -/
inductive GenerationError where
  | invalidOutputPath (cause : OutputError)
  | writeFailure (cause : OutputError)
  deriving DecidableEq, Repr

namespace GenerationError

def message : GenerationError → String
  | .invalidOutputPath _ => "create-asset menu was not generated: output path is invalid"
  | .writeFailure _ => "create-asset menu was not generated: output file could not be written"

/-- The failure at the output file. -/
def cause : GenerationError → OutputError
  | .invalidOutputPath cause => cause
  | .writeFailure cause => cause

end GenerationError

/-- What a run works on. -/
structure Generation where
  config : Config
  candidates : List Candidate
  template : Template

/-- What a run did.  Without an outcome no file was touched. -/
structure GenerationResult where
  output : Path
  outcome : Option WriteOutcome
  plan : Plan

namespace Generation

/-- The decisions of the run. -/
def plan (generation : Generation) : Plan :=
  Plan.make generation.config generation.candidates

/-- The text for a plan. -/
def emit (generation : Generation) (plan : Plan) : String :=
  generation.template.emit generation.config plan.entries

/-- The text that a run would write, if there are any entries. -/
def preview (generation : Generation) : Option String :=
  let plan := generation.plan
  if plan.isEmpty then none else some (generation.emit plan)

/-- Check the output path as a run would, without creating anything. -/
def checkOutput (generation : Generation) (fs : FileSystem) : Except GenerationError Unit :=
  (OutputPath.check generation.config.policy fs generation.config.output).mapError
    .invalidOutputPath

/-- The note on a run without entries. -/
def nothingFinding (output : Path) : Finding :=
  (Finding.info "write" "no eligible types; no file written").locatedAt output.text

/-- Run. -/
def run (generation : Generation) (fs : FileSystem) :
    Except GenerationError GenerationResult × FileSystem :=
  match OutputPath.validate generation.config.policy fs generation.config.output with
  | (.error cause, changed) => (.error (.invalidOutputPath cause), changed)
  | (.ok target, changed) =>
      let plan := generation.plan
      if plan.isEmpty then
        let findings := plan.findings ++ [nothingFinding target.path]
        (.ok ⟨target.path, none, { plan with findings }⟩, changed)
      else
        match OutputPath.write changed target (generation.emit plan) with
        | (.error cause, final) => (.error (.writeFailure cause), final)
        | (.ok outcome, final) => (.ok ⟨target.path, some outcome, plan⟩, final)

end Generation

end AssetMenu
