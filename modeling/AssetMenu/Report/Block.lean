/-!
# Reports

A report is a sequence of blocks, each of which says what it shows.  On a
terminal every block is written on lines of its own, and warnings go to a stream
of their own.
-/

namespace AssetMenu

/-- One block of a report. -/
inductive Block where
  | heading (name : String)
  | keyValue (key value : String)
  | addedItem (text : String)
  | removedItem (text : String)
  | warning (message : String)
  | divider (label : String)
  | verbatim (text : String)
  | blank
  deriving DecidableEq, Repr

/-- What a block adds to the standard output. -/
def Block.outputText : Block → String
  | .heading name => name ++ ":\n"
  | .keyValue key value => key ++ ": " ++ value ++ "\n"
  | .addedItem text => "  + " ++ text ++ "\n"
  | .removedItem text => "  - " ++ text ++ "\n"
  | .warning _ => ""
  | .divider label => "── " ++ label ++ " ──\n"
  | .verbatim text => text ++ "\n"
  | .blank => "\n"

/-- The line that a block adds to the stream of warnings. -/
def Block.warningLine? : Block → Option String
  | .warning message => some ("warning: " ++ message)
  | _ => none

end AssetMenu
