import AssetMenu.CommandLine.Command
import AssetMenu.Report.Check
import AssetMenu.Report.Generate

/-!
# Running the commands

A run of the program takes its arguments and the file system to what it prints,
how it ends, and the file system that it leaves.
-/

namespace AssetMenu.CommandLine

/-- How a run ends, and what it prints. -/
structure Outcome where
  exitCode : Nat
  output : String
  warnings : List String
  /-- Why the run failed. -/
  complaint : Option String
  deriving DecidableEq, Repr

namespace Outcome

/-- A run that prints a text. -/
def printing (output : String) : Outcome :=
  ⟨0, output, [], none⟩

/-- A run that fails. -/
def failure (complaint : String) : Outcome :=
  ⟨1, "", [], some complaint⟩

/-- A run that shows a report. -/
def showing (blocks : List Block) : Outcome :=
  ⟨0, String.join (blocks.map (·.outputText)), blocks.filterMap (·.warningLine?), none⟩

/-- A run that does not get past its arguments. -/
def ofStop : Stop → Outcome
  | .usage => ⟨2, "", [], some "the arguments are not understood"⟩
  | .help => printing ""
  | .version => printing "menugen 0.1.0\n"

end Outcome

/-- What is printed when a starter manifest was written. -/
def createdText (path : Path) : String :=
  "Created " ++ path.text ++ "\n\nNext steps:\n" ++
    "  declare your asset types under [types]\n  menugen check\n  menugen generate\n"

/-- Write a starter manifest, unless there is something in its place. -/
def runInit (directory : Path) (output : Option String) (fs : FileSystem) :
    Outcome × FileSystem :=
  let starter := { Starter.standard with output := output.getD Starter.standard.output }
  let path := Starter.pathIn directory
  if fs.contains path then (.failure (path.text ++ " already exists"), fs)
  else match OutputPath.validate .create fs path with
    | (.error error, changed) => (.failure error.message, changed)
    | (.ok target, changed) =>
        match OutputPath.write changed target starter.text with
        | (.error error, final) => (.failure error.message, final)
        | (.ok _, final) => (.printing (createdText path), final)

/-- Generate the output file, or show what would be generated. -/
def runGenerate (config : Path) (overrides : Overrides) (isDryRun : Bool) (fs : FileSystem) :
    Outcome × FileSystem :=
  match ManifestFile.load fs config with
  | .error error => (.failure error.message, fs)
  | .ok file =>
      match GenerateReport.make file overrides isDryRun fs with
      | (.error error, changed) => (.failure error.cause.message, changed)
      | (.ok report, changed) => (.showing report.blocks, changed)

/-- Show what would become of the tagged types. -/
def runCheck (config : Path) (asJson : Bool) (fs : FileSystem) : Outcome :=
  match ManifestFile.load fs config with
  | .error error => .failure error.message
  | .ok file =>
      let report := CheckReport.make file config
      if asJson then .printing (report.json.render 0 ++ "\n") else .showing report.blocks

/-- Run a command. -/
def Command.run (fs : FileSystem) : Command → Outcome × FileSystem
  | .init directory output => runInit directory output fs
  | .generate config overrides isDryRun => runGenerate config overrides isDryRun fs
  | .check config asJson => (runCheck config asJson fs, fs)
  | .completions _ => (.printing "", fs)

/-- Run the program. -/
def run (arguments : List String) (fs : FileSystem) : Outcome × FileSystem :=
  match Command.read arguments with
  | .error stop => (.ofStop stop, fs)
  | .ok command => command.run fs

end AssetMenu.CommandLine
