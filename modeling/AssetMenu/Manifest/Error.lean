import AssetMenu.FileSystem.Fault
import AssetMenu.Manifest.Mismatch
import AssetMenu.Path

/-!
# Manifests that are refused

Why no manifest could be had from a file or a source, and the texts that report
it: a message, a code under which it is looked up, advice, and a label at a
place in the source.
-/

namespace AssetMenu

open Document

/-- The reason why a source gives no manifest. -/
inductive ManifestFault where
  /-- The source is no well-formed document. -/
  | malformed
  /-- The document has not the structure of a manifest. -/
  | mismatch (difference : Mismatch)
  | emptyOutput (label : Option Span)
  | invalidTypeName (name context : String) (label : Option Span)
  | inheritanceCycle (chain : List String) (label : Option Span)
  deriving DecidableEq, Repr

/-- A failure to get a manifest. -/
inductive ManifestError where
  | unreadable (path : Path) (fault : Fault)
  /-- The source that goes by the name `file` is refused. -/
  | refused (file : String) (fault : ManifestFault)
  deriving DecidableEq, Repr

namespace ManifestFault

def emptyOutputMessage : String :=
  "output path cannot be empty"

def message : ManifestFault → String
  | .malformed => "failed to parse menugen.toml"
  | .mismatch _ => "failed to parse menugen.toml"
  | .emptyOutput _ => emptyOutputMessage
  | .invalidTypeName name context _ => s!"invalid {context} '{name}'"
  | .inheritanceCycle chain _ => "inheritance cycle: " ++ String.intercalate " -> " chain

def code : ManifestFault → String
  | .malformed => "menugen::parse_error"
  | .mismatch _ => "menugen::parse_error"
  | .emptyOutput _ => "menugen::validation_error"
  | .invalidTypeName _ _ _ => "menugen::invalid_type_name"
  | .inheritanceCycle _ _ => "menugen::inheritance_cycle"

def help : ManifestFault → Option String
  | .invalidTypeName _ _ _ =>
      some ("use a dot-separated name such as 'Game.Items.Sword'; each segment must start " ++
        "with a letter or underscore and may end with a generic arity like '`1'")
  | .inheritanceCycle _ _ =>
      some "a type cannot extend itself, directly or through other types"
  | _ => none

/-- The place in the source that the fault points at, and the text put there. -/
def label? : ManifestFault → Option (Span × String)
  | .malformed => none
  | .mismatch difference => some (difference.span, "parse error here")
  | .emptyOutput label => label.map (·, emptyOutputMessage)
  | .invalidTypeName _ _ label => label.map (·, "invalid type name")
  | .inheritanceCycle _ label => label.map (·, "cycle closes here")

end ManifestFault

namespace ManifestError

def message : ManifestError → String
  | .unreadable path _ => "failed to read '" ++ path.text ++ "'"
  | .refused _ fault => fault.message

def code : ManifestError → Option String
  | .unreadable _ _ => none
  | .refused _ fault => some fault.code

def help : ManifestError → Option String
  | .unreadable _ _ => some "run 'menugen init' to create a menugen.toml"
  | .refused _ fault => fault.help

end ManifestError

end AssetMenu
