import AssetMenu.Emission
import AssetMenu.Plan
import AssetMenu.Report.Block
import AssetMenu.Report.Json
import AssetMenu.Template.UnityScript

/-!
# Checking a manifest

The report of a check shows for every tagged type what a run would do with it.
-/

namespace AssetMenu

/-- What a run would do with a tagged type. -/
inductive EntryStatus where
  | generated (identifier menuPath : String) (priority : Int)
  | excluded (reason : String)
  /-- No name was left. -/
  | skipped
  deriving DecidableEq, Repr

/-- A tagged type. -/
structure CheckEntry where
  typeName : String
  status : EntryStatus
  deriving DecidableEq, Repr

/-- The report of a check. -/
structure CheckReport where
  configPath : Path
  output : Path
  baseType : String
  /-- The types that get entries, then those that are excluded, then those that
  are skipped. -/
  entries : List CheckEntry
  deriving DecidableEq, Repr

namespace CheckReport

/-- The report on a named candidate. -/
def generatedEntry (config : Config) (resolved : Resolved) : CheckEntry :=
  let menu := Template.unityScript.menuEntry config resolved
  ⟨resolved.candidate.type.fullName,
    .generated resolved.identifier menu.menuPath menu.priority⟩

/-- The report on a candidate that is not eligible. -/
def excludedEntry (rejected : RejectedCandidate) : CheckEntry :=
  ⟨rejected.candidate.type.fullName, .excluded rejected.rejection.message⟩

/-- The report on a candidate that got no name. -/
def skippedEntry (candidate : Candidate) : CheckEntry :=
  ⟨candidate.type.fullName, .skipped⟩

/-- Check a manifest file.  The report names it as `configPath`. -/
def make (file : ManifestFile) (configPath : Path) : CheckReport :=
  let config := Config.ofFile file
  let plan := Plan.make config file.manifest.candidates
  { configPath
    output := config.output
    baseType := config.baseType
    entries :=
      plan.entries.map (generatedEntry config) ++ plan.rejected.map excludedEntry ++
        plan.exhausted.map skippedEntry }

/-- Number of types that get entries. -/
def generatedCount (report : CheckReport) : Nat :=
  report.entries.countP fun entry =>
    match entry.status with
    | .generated _ _ _ => true
    | _ => false

/-- The block on a tagged type. -/
def entryBlock (entry : CheckEntry) : Block :=
  match entry.status with
  | .generated _ menuPath priority =>
      .addedItem (entry.typeName ++ " -> \"" ++ menuPath ++ "\" (priority " ++
        toString priority ++ ")")
  | .excluded reason => .removedItem (entry.typeName ++ ": " ++ reason)
  | .skipped =>
      .warning (entry.typeName ++ ": skipped, simple and fully-qualified names are both taken")

/-- The report as blocks. -/
def blocks (report : CheckReport) : List Block :=
  [ .verbatim ("✓ " ++ report.configPath.text ++ " is valid"),
    .blank,
    .keyValue "Output" report.output.text,
    .keyValue "Base type" report.baseType,
    .blank ] ++
  if report.entries.isEmpty then
    [.verbatim "No tagged types; generate would write nothing."]
  else
    .heading ("Menu entries (" ++ toString report.generatedCount ++ ")") ::
      report.entries.map entryBlock

open Report in
/-- A tagged type as JSON. -/
def entryJson (entry : CheckEntry) : Json :=
  .object (("type_name", .text entry.typeName) ::
    match entry.status with
    | .generated identifier menuPath priority =>
        [ ("status", .text "generated"), ("identifier", .text identifier),
          ("menu_path", .text menuPath), ("priority", .integer priority) ]
    | .excluded reason => [("status", .text "excluded"), ("reason", .text reason)]
    | .skipped => [("status", .text "skipped")])

open Report in
/-- The report as JSON. -/
def json (report : CheckReport) : Json :=
  .object
    [ ("config_path", .text report.configPath.text),
      ("output", .text report.output.text),
      ("base_type", .text report.baseType),
      ("entries", .array (report.entries.map entryJson)) ]

end CheckReport

end AssetMenu
