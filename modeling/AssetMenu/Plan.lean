import AssetMenu.Config
import AssetMenu.Eligibility
import AssetMenu.Finding
import AssetMenu.Naming

/-!
# Plans

What a run decides before it touches the output file: which candidates get
entries under which names, and which get none for what reason.  Candidates that
are not eligible take no names away from others.
-/

namespace AssetMenu

/-- A candidate that is not eligible, and the reason. -/
structure RejectedCandidate where
  candidate : Candidate
  rejection : Rejection
  deriving DecidableEq, Repr

/-- The decisions of a run. -/
structure Plan where
  /-- The entries in the order of their numbers. -/
  entries : List Resolved
  rejected : List RejectedCandidate
  /-- Eligible candidates that got no name. -/
  exhausted : List Candidate
  findings : List Finding
  deriving DecidableEq, Repr

namespace Plan

/-- Are there no entries? -/
def isEmpty (plan : Plan) : Bool :=
  plan.entries.isEmpty

/-- Number of entries. -/
def count (plan : Plan) : Nat :=
  plan.entries.length

/-- The candidates that are not eligible. -/
def rejections (base : String) (candidates : List Candidate) : List RejectedCandidate :=
  candidates.filterMap fun candidate =>
    (candidate.type.rejection? base).map (⟨candidate, ·⟩)

/-- The note on a candidate that is not eligible. -/
def rejectedFinding (rejected : RejectedCandidate) : Finding :=
  (Finding.info "validate" ("excluded: " ++ rejected.rejection.message)).locatedAt
    rejected.candidate.type.fullName

/-- The note on a candidate that got no name. -/
def exhaustedFinding (candidate : Candidate) : Finding :=
  (Finding.warning "resolve"
    "skipped: both the simple and the fully-qualified name are already used").locatedAt
    candidate.type.fullName

/-- Decide what becomes of the candidates. -/
def make (config : Config) (candidates : List Candidate) : Plan :=
  let rejected := rejections config.baseType candidates
  let resolution :=
    Naming.resolveAll config.affixes (candidates.filter (·.isEligible config.baseType))
  { entries := resolution.resolved
    rejected
    exhausted := resolution.exhausted
    findings := rejected.map rejectedFinding ++ resolution.exhausted.map exhaustedFinding }

end Plan

end AssetMenu
