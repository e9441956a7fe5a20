import AssetMenu.CommandLine.Arguments
import AssetMenu.Config
import AssetMenu.Manifest.Starter

/-!
# The commands

What the program can be told to do.  Options that hold for every command may
stand before or behind its name.
-/

namespace AssetMenu.CommandLine

/-- A command with all it was told. -/
inductive Command where
  /-- Write a starter manifest. -/
  | init (directory : Path) (output : Option String)
  /-- Generate the output file, or show what would be generated. -/
  | generate (config : Path) (overrides : Overrides) (isDryRun : Bool)
  /-- Show what would become of the tagged types. -/
  | check (config : Path) (asJson : Bool)
  /-- Help a shell complete the arguments. -/
  | completions (shell : String)
  deriving DecidableEq, Repr

/-- Options of every command. -/
def commonOptions : List OptionSpec :=
  [⟨"verbose", some 'v', .counted⟩, ⟨"help", some 'h', .help⟩]

/-- Options that stand before the name of a command. -/
def leadingOptions : List OptionSpec :=
  commonOptions ++ [⟨"version", some 'V', .version⟩]

def configOption : OptionSpec :=
  ⟨"config", some 'c', .value .path⟩

def shells : List String :=
  ["bash", "elvish", "fish", "powershell", "zsh"]

def initSignature : Signature :=
  ⟨commonOptions ++ [⟨"output", some 'o', .value .text⟩], some .path⟩

def generateSignature : Signature :=
  ⟨commonOptions ++
    [ configOption, ⟨"output", some 'o', .value .path⟩, ⟨"prefix", none, .value .text⟩,
      ⟨"suffix", none, .value .text⟩, ⟨"order", none, .value .integer⟩,
      ⟨"dry-run", none, .flag⟩ ], none⟩

def checkSignature : Signature :=
  ⟨commonOptions ++ [configOption, ⟨"json", none, .flag⟩], none⟩

def completionsSignature : Signature :=
  ⟨commonOptions, some (.choice shells)⟩

namespace Command

/-- The manifest that a command works on. -/
def configOf (given : Given) : Path :=
  ⟨(given.value? "config").getD Manifest.fileName⟩

/-- The values that take the place of settings. -/
def overridesOf (given : Given) : Overrides :=
  { output := (given.value? "output").map (⟨·⟩)
    before := given.value? "prefix"
    after := given.value? "suffix"
    order := (given.value? "order").bind readInteger? }

/-- Read the arguments behind the name of a command. -/
def ofName (name : String) (arguments : List String) : Except Stop Command :=
  if name = "init" then do
    let given ← initSignature.read arguments
    .ok (.init ⟨given.operand.getD "."⟩ (given.value? "output"))
  else if name = "generate" then do
    let given ← generateSignature.read arguments
    .ok (.generate (configOf given) (overridesOf given) (given.has "dry-run"))
  else if name = "check" then do
    let given ← checkSignature.read arguments
    .ok (.check (configOf given) (given.has "json"))
  else if name = "completions" then do
    let given ← completionsSignature.read arguments
    match given.operand with
    | some shell => .ok (.completions shell)
    | none => .error .usage
  else .error .usage

/-- The names that help can be asked about. -/
def names : List String :=
  ["init", "generate", "check", "completions", "help"]

/-- Read the arguments of the program.  The first that is no option names the
command. -/
def read : List String → Except Stop Command
  | [] => .error .usage
  | text :: rest =>
      match Argument.ofText text with
      | .separator => .error .usage
      | .operand name =>
          if name = "help" then
            match rest with
            | [] => .error .help
            | [topic] => if names.contains topic then .error .help else .error .usage
            | _ => .error .usage
          else ofName name rest
      | argument => do
          let _ ← Signature.readArgument ⟨leadingOptions, none⟩ Given.nothing argument
          read rest

end Command

end AssetMenu.CommandLine
