import AssetMenu.Generation
import AssetMenu.Report.Block
import AssetMenu.Template.UnityScript

/-!
# Generating from a manifest file

A run on the tagged types of a manifest file, or a dry run, which shows the text
in place of writing it.  Both report the entries and what became of the output
file.
-/

namespace AssetMenu

/-- What became of the output file. -/
inductive GenerateResult where
  | written
  | unchanged
  /-- There are no entries, so the file was not touched. -/
  | nothingToGenerate
  | preview (content : String)
  deriving DecidableEq, Repr

/-- An entry of the generated file. -/
structure GeneratedEntry where
  identifier : String
  typeName : String
  deriving DecidableEq, Repr

/-- The report of a run. -/
structure GenerateReport where
  output : Path
  entries : List GeneratedEntry
  findings : List Finding
  result : GenerateResult
  deriving DecidableEq, Repr

namespace GenerateReport

/-- The report on a plan. -/
def ofPlan (output : Path) (plan : Plan) (result : GenerateResult) : GenerateReport :=
  { output
    entries := plan.entries.map fun resolved =>
      ⟨resolved.identifier, resolved.candidate.type.fullName⟩
    findings := plan.findings
    result }

/-- The run on a manifest file. -/
def generation (file : ManifestFile) (overrides : Overrides) : Generation :=
  { config := overrides.apply (Config.ofFile file)
    candidates := file.manifest.candidates
    template := Template.unityScript }

/-- Show what a run would write.  Nothing is changed. -/
def dryRun (file : ManifestFile) (overrides : Overrides) (fs : FileSystem) :
    Except GenerationError GenerateReport := do
  let generation := generation file overrides
  generation.checkOutput fs
  let plan := generation.plan
  let result :=
    if plan.isEmpty then .nothingToGenerate else .preview (generation.emit plan)
  .ok (ofPlan generation.config.output plan result)

/-- What became of the output file, from the outcome of a run. -/
def resultOf : Option WriteOutcome → GenerateResult
  | some .written => .written
  | some .unchanged => .unchanged
  | none => .nothingToGenerate

/-- Run on a manifest file. -/
def realRun (file : ManifestFile) (overrides : Overrides) (fs : FileSystem) :
    Except GenerationError GenerateReport × FileSystem :=
  match (generation file overrides).run fs with
  | (.error error, changed) => (.error error, changed)
  | (.ok done, changed) => (.ok (ofPlan done.output done.plan (resultOf done.outcome)), changed)

/-- Run on a manifest file, or only show what a run would write. -/
def make (file : ManifestFile) (overrides : Overrides) (isDryRun : Bool) (fs : FileSystem) :
    Except GenerationError GenerateReport × FileSystem :=
  if isDryRun then (dryRun file overrides fs, fs) else realRun file overrides fs

/-- The blocks on a file that was written, now or before. -/
def fileBlocks (report : GenerateReport) (status : String) : List Block :=
  .heading ("Menu entries (" ++ toString report.entries.length ++ ")") ::
    report.entries.map (fun entry =>
      Block.addedItem (entry.identifier ++ " (" ++ entry.typeName ++ ")")) ++
    [.blank, .keyValue status report.output.text]

/-- A number of entries in words. -/
def entryCount (count : Nat) : String :=
  toString count ++ (if count = 1 then " menu entry" else " menu entries")

/-- The blocks on what became of the output file. -/
def resultBlocks (report : GenerateReport) : List Block :=
  match report.result with
  | .preview content =>
      [ .divider report.output.text, .verbatim content, .divider "Summary",
        .verbatim (entryCount report.entries.length ++ " would be generated") ]
  | .nothingToGenerate => [.verbatim "No eligible types found; nothing was written."]
  | .written => report.fileBlocks "Generated"
  | .unchanged => report.fileBlocks "Up to date"

/-- The report as blocks.  Warnings come first. -/
def blocks (report : GenerateReport) : List Block :=
  (report.findings.filter (·.severity.isWarning)).map (fun finding => .warning finding.text) ++
    report.resultBlocks

end GenerateReport

end AssetMenu
