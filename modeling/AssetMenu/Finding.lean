/-!
# Findings

Notes that a run takes on the way.  None of them stops the run.
-/

namespace AssetMenu

/-- How much a finding matters. -/
inductive Severity where
  /-- Something was left out that was probably wanted. -/
  | warning
  | info
  deriving DecidableEq, Repr

def Severity.text : Severity → String
  | .warning => "warning"
  | .info => "info"

def Severity.isWarning : Severity → Bool
  | .warning => true
  | .info => false

/-- A note about something, usually a type, made in a phase of a run. -/
structure Finding where
  severity : Severity
  phase : String
  message : String
  location : Option String
  deriving DecidableEq, Repr

namespace Finding

def warning (phase message : String) : Finding :=
  ⟨.warning, phase, message, none⟩

def info (phase message : String) : Finding :=
  ⟨.info, phase, message, none⟩

/-- The finding with a location, in place of one it may have. -/
def locatedAt (finding : Finding) (location : String) : Finding :=
  { finding with location := some location }

/-- The finding on one line. -/
def text (finding : Finding) : String :=
  finding.severity.text ++ ": " ++ finding.message ++
    match finding.location with
    | some location => " (at " ++ location ++ ")"
    | none => ""

end Finding

end AssetMenu
