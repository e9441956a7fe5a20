import AssetMenu.Eligibility
import AssetMenu.Proofs.Naming.Outcomes

/-!
# What a run rules on each candidate

A run passes over the candidates that break a rule and names the others in their order.
Here it is written down candidate by candidate, with the number of the entry as well, so
that two runs can be compared at each place of their lists.  A ruling depends on what is
taken when it is made, but not on the order in which it was taken.
-/

namespace AssetMenu

/-- What becomes of a candidate. -/
inductive Verdict where
  | rejected (rejection : Rejection)
  | named (identifier : String) (ordinal : Nat)
  /-- No name was left. -/
  | exhausted
  deriving DecidableEq, Repr

/-- A candidate and what becomes of it. -/
structure Ruling where
  candidate : Candidate
  verdict : Verdict
  deriving DecidableEq, Repr

namespace Ruling

/-- The entry of the candidate. -/
def resolved? (ruling : Ruling) : Option Resolved :=
  match ruling.verdict with
  | .named identifier ordinal => some ⟨ruling.candidate, identifier, ordinal⟩
  | _ => none

/-- The candidate, if it got no name. -/
def exhausted? (ruling : Ruling) : Option Candidate :=
  match ruling.verdict with
  | .exhausted => some ruling.candidate
  | _ => none

end Ruling

namespace Resolution

/-- The resolution that consists of the given rulings. -/
def ofRulings (rulings : List Ruling) : Resolution :=
  ⟨rulings.filterMap Ruling.resolved?, rulings.filterMap Ruling.exhausted?⟩

variable (candidate : Candidate) (rulings : List Ruling)

@[simp]
theorem ofRulings_rejected (rejection : Rejection) :
    ofRulings (⟨candidate, .rejected rejection⟩ :: rulings) = ofRulings rulings := rfl

@[simp]
theorem ofRulings_named (identifier : String) (ordinal : Nat) :
    ofRulings (⟨candidate, .named identifier ordinal⟩ :: rulings) =
      { ofRulings rulings with
        resolved := ⟨candidate, identifier, ordinal⟩ :: (ofRulings rulings).resolved } := rfl

@[simp]
theorem ofRulings_exhausted :
    ofRulings (⟨candidate, .exhausted⟩ :: rulings) =
      { ofRulings rulings with exhausted := candidate :: (ofRulings rulings).exhausted } := rfl

end Resolution

namespace Naming

section Rulings

variable (rejects? : Candidate → Option Rejection) (affixes : Affixes)

/-- What is ruled on a candidate whose turn it is. -/
def verdictOf (taken : Taken) (candidate : Candidate) : Verdict :=
  match rejects? candidate with
  | some rejection => .rejected rejection
  | none =>
      match (outcomeOf affixes taken candidate).base with
      | some base => .named (compose affixes candidate base) taken.count
      | none => .exhausted

/-- What is taken once it was the candidate's turn. -/
def takenBy (taken : Taken) (candidate : Candidate) : Taken :=
  match rejects? candidate with
  | some _ => taken
  | none => taken.after affixes (outcomeOf affixes taken candidate)

/-- What is ruled on candidates in their order. -/
def rulingsFrom : Taken → List Candidate → List Ruling
  | _, [] => []
  | taken, candidate :: rest =>
      ⟨candidate, verdictOf rejects? affixes taken candidate⟩ ::
        rulingsFrom (takenBy rejects? affixes taken candidate) rest

@[simp]
theorem map_candidate_rulingsFrom (taken : Taken) (candidates : List Candidate) :
    (rulingsFrom rejects? affixes taken candidates).map (·.candidate) = candidates := by
  induction candidates generalizing taken with
  | nil => rfl
  | cons candidate rest ih => simp [rulingsFrom, ih]

/-- What is ruled on some candidates depends on those before them through what these take. -/
theorem rulingsFrom_append (taken : Taken) (earlier later : List Candidate) :
    rulingsFrom rejects? affixes taken (earlier ++ later) =
      rulingsFrom rejects? affixes taken earlier ++
        rulingsFrom rejects? affixes (earlier.foldl (takenBy rejects? affixes) taken) later := by
  induction earlier generalizing taken with
  | nil => rfl
  | cons candidate rest ih => simp [rulingsFrom, ih]

/-- Naming alone, without the candidates that are passed over, makes the same rulings. -/
theorem resolveFrom_eq_ofRulings (taken : Taken) (candidates : List Candidate) :
    resolveFrom affixes taken (candidates.filter fun candidate => (rejects? candidate).isNone) =
      .ofRulings (rulingsFrom rejects? affixes taken candidates) := by
  induction candidates generalizing taken with
  | nil => rfl
  | cons candidate rest ih =>
      cases hrejects : rejects? candidate with
      | some rejection => simp [rulingsFrom, verdictOf, takenBy, hrejects, ih]
      | none =>
          cases hbase : (outcomeOf affixes taken candidate).base with
          | none => simp [rulingsFrom, verdictOf, takenBy, hrejects, resolveFrom_cons, hbase, ih]
          | some base =>
              simp [rulingsFrom, verdictOf, takenBy, hrejects, resolveFrom_cons, hbase, ih]

end Rulings

/-! ## What a ruling depends on -/

section Alike

variable {affixes : Affixes} {left right taken : Taken} {candidate : Candidate}

/-- A choice depends on whether the candidate's own forms and names are taken. -/
theorem choice?_congr
    (hbases : ∀ form ∈ forms candidate, form ∈ left.bases ↔ form ∈ right.bases)
    (hidentifiers : ∀ form ∈ forms candidate,
      compose affixes candidate form ∈ left.identifiers ↔
        compose affixes candidate form ∈ right.identifiers) :
    choice? affixes left candidate = choice? affixes right candidate := by
  simp only [forms, List.forall_mem_cons] at hbases hidentifiers
  obtain ⟨hsimple, hfull, -⟩ := hbases
  obtain ⟨hsimple', hfull', -⟩ := hidentifiers
  simp only [choice?, forms, List.findSome?_cons, List.findSome?_nil, hsimple, hfull, hsimple',
    hfull']

/-- The same texts and names are taken, in whatever order, by the same number of entries. -/
structure Taken.Alike (left right : Taken) : Prop where
  bases : ∀ text, text ∈ left.bases ↔ text ∈ right.bases
  identifiers : ∀ text, text ∈ left.identifiers ↔ text ∈ right.identifiers
  count : left.count = right.count

theorem Taken.Alike.outcomeOf_eq (halike : left.Alike right) (candidate : Candidate) :
    outcomeOf affixes left candidate = outcomeOf affixes right candidate := by
  have hchoice : choice? affixes left candidate = choice? affixes right candidate :=
    choice?_congr (fun form _ => halike.bases form) fun form _ => halike.identifiers _
  rw [outcomeOf, outcomeOf, hchoice]

theorem Taken.Alike.after (halike : left.Alike right) (outcome : Outcome) :
    (left.after affixes outcome).Alike (right.after affixes outcome) := by
  obtain ⟨hbases, hidentifiers, hcount⟩ := halike
  cases hbase : outcome.base with
  | none => simpa [Taken.after, hbase] using ⟨hbases, hidentifiers, hcount⟩
  | some base =>
      constructor
      · simp [Taken.after, hbase, hbases]
      · simp [Taken.after, hbase, hidentifiers]
      · simp [Taken.after, hbase, hcount]

theorem Taken.Alike.rulingsFrom_eq (halike : left.Alike right)
    (rejects? : Candidate → Option Rejection) (affixes : Affixes) (candidates : List Candidate) :
    rulingsFrom rejects? affixes left candidates =
      rulingsFrom rejects? affixes right candidates := by
  induction candidates generalizing left right with
  | nil => rfl
  | cons candidate rest ih =>
      have hverdict : verdictOf rejects? affixes left candidate =
          verdictOf rejects? affixes right candidate := by
        simp only [verdictOf, halike.outcomeOf_eq, halike.count]
      have htaken : (takenBy rejects? affixes left candidate).Alike
          (takenBy rejects? affixes right candidate) := by
        simp only [takenBy, halike.outcomeOf_eq]
        split
        · exact halike
        · exact halike.after _
      rw [rulingsFrom, rulingsFrom, hverdict, ih htaken]

/-- It does not matter in which order two outcomes are settled.  The lists of what is taken differ
in their order, which is why `Alike` goes by membership. -/
theorem Taken.alike_after_after (affixes : Affixes) (taken : Taken) (first second : Outcome) :
    ((taken.after affixes first).after affixes second).Alike
      ((taken.after affixes second).after affixes first) := by
  cases hfirst : first.base <;> cases hsecond : second.base <;>
    constructor <;> simp [Taken.after, hfirst, hsecond, or_left_comm]

end Alike

end Naming

end AssetMenu
