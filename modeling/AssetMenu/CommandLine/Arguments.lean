/-!
# Command line arguments

How arguments are read, whatever the command.  An option has a long name, perhaps
a letter, and perhaps a value, which is attached to it or follows it.  Letters
can be put together behind one dash.  An argument that does not begin with a dash
is an operand, and so is everything behind two dashes that stand alone.  The
arguments are read from the left, and the first that cannot be is a usage error.
-/

namespace AssetMenu.CommandLine

/-- What a value has to be. -/
inductive ValueKind where
  /-- A text, which may be empty. -/
  | text
  /-- A path, which may not be empty. -/
  | path
  /-- An integer of 64 bits with a sign. -/
  | integer
  /-- One of some words. -/
  | choice (words : List String)
  deriving DecidableEq, Repr

/-- What an option is for. -/
inductive OptionKind where
  | flag
  /-- A flag that can be given any number of times. -/
  | counted
  | value (kind : ValueKind)
  /-- Asks for help, and for nothing else. -/
  | help
  /-- Asks for the version, and for nothing else. -/
  | version
  deriving DecidableEq, Repr

/-- An option. -/
structure OptionSpec where
  long : String
  letter : Option Char
  kind : OptionKind
  deriving DecidableEq, Repr

/-- What arguments are admitted: options, and at most one operand. -/
structure Signature where
  options : List OptionSpec
  operand : Option ValueKind
  deriving DecidableEq, Repr

/-- What was given: options with their values, and the operand. -/
structure Given where
  options : List (String × String)
  operand : Option String
  deriving DecidableEq, Repr

/-- Nothing was given. -/
def Given.nothing : Given :=
  ⟨[], none⟩

/-- Why reading stopped. -/
inductive Stop where
  | usage
  | help
  | version
  deriving DecidableEq, Repr

/-- Read an integer of 64 bits with a sign: perhaps a sign, then digits. -/
def readInteger? (text : String) : Option Int :=
  let (negative, digits) := match text.toList with
    | '-' :: rest => (true, rest)
    | '+' :: rest => (false, rest)
    | cs => (false, cs)
  if digits.isEmpty || !digits.all Char.isDigit then none
  else
    let magnitude : Int := digits.foldl (fun n c => 10 * n + (c.toNat - 48)) 0
    let value := if negative then -magnitude else magnitude
    if -0x8000000000000000 ≤ value ∧ value < 0x8000000000000000 then some value else none

/-- Is the text a value of the kind? -/
def ValueKind.admits (value : String) : ValueKind → Bool
  | .text => true
  | .path => !value.toList.isEmpty
  | .integer => (readInteger? value).isSome
  | .choice words => words.contains value

/-- May a text that follows an option be its value?  One that begins with a dash
is an option itself, unless it is the dash alone or a number. -/
def ValueKind.canFollow (value : String) (kind : ValueKind) : Bool :=
  match value.toList with
  | ['-'] => true
  | '-' :: _ => kind == .integer && (readInteger? value).isSome
  | _ => true

namespace Given

/-- The value of an option. -/
def value? (given : Given) (name : String) : Option String :=
  given.options.lookup name

/-- Was an option given? -/
def has (given : Given) (name : String) : Bool :=
  (given.value? name).isSome

/-- Add an option that has no value. -/
def addFlag (given : Given) (option : OptionSpec) : Except Stop Given :=
  match option.kind with
  | .counted => .ok given
  | .flag =>
      if given.has option.long then .error .usage
      else .ok { given with options := (option.long, "") :: given.options }
  | .help => .error .help
  | .version => .error .version
  | .value _ => .error .usage

/-- Add an option with its value.  It must not have been given before. -/
def addValue (given : Given) (option : OptionSpec) (value : String) : Except Stop Given :=
  match option.kind with
  | .value kind =>
      if kind.admits value && !given.has option.long then
        .ok { given with options := (option.long, value) :: given.options }
      else .error .usage
  | _ => .error .usage

/-- Add the operand. -/
def addOperand (given : Given) (signature : Signature) (value : String) : Except Stop Given :=
  match signature.operand, given.operand with
  | some kind, none =>
      if kind.admits value then .ok { given with operand := some value } else .error .usage
  | _, _ => .error .usage

end Given

/-- What an argument looks like. -/
inductive Argument where
  /-- Two dashes that stand alone. -/
  | separator
  | long (name : String) (value : Option String)
  | letters (cluster : List Char)
  | operand (value : String)
  deriving DecidableEq, Repr

/-- Look at an argument. -/
def Argument.ofText (text : String) : Argument :=
  match text.toList with
  | ['-', '-'] => .separator
  | '-' :: '-' :: rest =>
      let name := String.ofList (rest.takeWhile (· != '='))
      match rest.dropWhile (· != '=') with
      | _ :: value => .long name (some (String.ofList value))
      | [] => .long name none
  | ['-'] => .operand text
  | '-' :: cluster => .letters cluster
  | _ => .operand text

namespace Signature

/-- The option with a long name. -/
def ofName (signature : Signature) (name : String) : Except Stop OptionSpec :=
  match signature.options.find? fun option => option.long == name with
  | some option => .ok option
  | none => .error .usage

/-- The option with a letter. -/
def ofLetter (signature : Signature) (letter : Char) : Except Stop OptionSpec :=
  match signature.options.find? fun option => option.letter == some letter with
  | some option => .ok option
  | none => .error .usage

/-- Read letters behind one dash.  What follows the letter of an option with a
value is that value, perhaps behind an equals sign; if nothing follows, the
option still waits for it. -/
def readLetters (signature : Signature) (given : Given) :
    List Char → Except Stop (Given × Option OptionSpec)
  | [] => .ok (given, none)
  | letter :: rest => do
      let option ← signature.ofLetter letter
      match option.kind, rest with
      | .value _, [] => .ok (given, some option)
      | .value _, '=' :: value =>
          let given ← given.addValue option (String.ofList value)
          .ok (given, none)
      | .value _, value =>
          let given ← given.addValue option (String.ofList value)
          .ok (given, none)
      | _, _ =>
          let given ← given.addFlag option
          signature.readLetters given rest

/-- Read a long option. -/
def readLong (signature : Signature) (given : Given) (name : String) (value : Option String) :
    Except Stop (Given × Option OptionSpec) := do
  let option ← signature.ofName name
  match option.kind, value with
  | .value _, none => .ok (given, some option)
  | .value _, some value =>
      let given ← given.addValue option value
      .ok (given, none)
  | _, none =>
      let given ← given.addFlag option
      .ok (given, none)
  | _, some _ => .error .usage

/-- Read one argument.  The answer holds the option that waits for its value, if
there is one. -/
def readArgument (signature : Signature) (given : Given) (argument : Argument) :
    Except Stop (Given × Option OptionSpec) :=
  match argument with
  | .separator => .ok (given, none)
  | .long name value => signature.readLong given name value
  | .letters cluster => signature.readLetters given cluster
  | .operand value => do
      let given ← given.addOperand signature value
      .ok (given, none)

/-- Read the value that an option waits for. -/
def readWaiting (given : Given) (option : OptionSpec) (text : String) : Except Stop Given :=
  match option.kind with
  | .value kind =>
      if kind.canFollow text then given.addValue option text else .error .usage
  | _ => .error .usage

/-- Read arguments, where `waiting` is the option that waits for its value. -/
def readFrom (signature : Signature) (given : Given) (waiting : Option OptionSpec) :
    List String → Except Stop Given
  | [] => if waiting.isSome then .error .usage else .ok given
  | text :: rest =>
      match waiting with
      | some option => do
          let given ← readWaiting given option text
          signature.readFrom given none rest
      | none =>
          match Argument.ofText text with
          | .separator => rest.foldlM (fun given value => given.addOperand signature value) given
          | argument => do
              let (given, waiting) ← signature.readArgument given argument
              signature.readFrom given waiting rest

/-- Read all arguments. -/
def read (signature : Signature) (arguments : List String) : Except Stop Given :=
  signature.readFrom Given.nothing none arguments

end Signature

end AssetMenu.CommandLine
