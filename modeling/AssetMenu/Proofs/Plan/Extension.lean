import AssetMenu.Proofs.Emission.Parts
import AssetMenu.Proofs.Naming.Rulings
import Mathlib.Data.List.Basic

/-!
# Adding candidates at the end

A plan can be made candidate by candidate, and no candidate is looked at before its turn.  So
candidates at the end of the list change nothing for those before them: their rulings stay, the
lists of the plan grow at the end, and what was generated for them stays in the file as it is.
-/

namespace AssetMenu

/-- The candidate with the rule it breaks. -/
def Ruling.rejected? (ruling : Ruling) : Option RejectedCandidate :=
  match ruling.verdict with
  | .rejected rejection => some ⟨ruling.candidate, rejection⟩
  | _ => none

namespace Plan

open Code Template

variable (config : Config)

/-- What is ruled on each of the candidates of a run. -/
def rulings (candidates : List Candidate) : List Ruling :=
  Naming.rulingsFrom (fun candidate => candidate.type.rejection? config.baseType) config.affixes
    Naming.Taken.none candidates

/-- A plan that says of each candidate, in their order, what was ruled on it. -/
structure Records (plan : Plan) (candidates : List Candidate) (rulings : List Ruling) : Prop where
  candidates_eq : rulings.map (·.candidate) = candidates
  entries_eq : plan.entries = rulings.filterMap Ruling.resolved?
  rejected_eq : plan.rejected = rulings.filterMap Ruling.rejected?
  exhausted_eq : plan.exhausted = rulings.filterMap Ruling.exhausted?

/-- Who breaks a rule does not depend on what is taken. -/
theorem filterMap_rejected?_rulingsFrom (base : String) (affixes : Affixes)
    (taken : Naming.Taken) (candidates : List Candidate) :
    (Naming.rulingsFrom (fun candidate => candidate.type.rejection? base) affixes taken
      candidates).filterMap Ruling.rejected? = rejections base candidates := by
  induction candidates generalizing taken with
  | nil => rfl
  | cons candidate rest ih =>
      rw [Naming.rulingsFrom, rejections, List.filterMap_cons, List.filterMap_cons, ih]
      cases hrejection : candidate.type.rejection? base with
      | some rejection => simp [Ruling.rejected?, Naming.verdictOf, hrejection, rejections]
      | none =>
          cases hbase : (Naming.outcomeOf affixes taken candidate).base <;>
            simp [Ruling.rejected?, Naming.verdictOf, hrejection, hbase, rejections]

theorem make_records (candidates : List Candidate) :
    (make config candidates).Records candidates (rulings config candidates) := by
  have hresolution : Naming.resolveAll config.affixes
      (candidates.filter (·.isEligible config.baseType)) =
        .ofRulings (rulings config candidates) :=
    Naming.resolveFrom_eq_ofRulings _ config.affixes Naming.Taken.none candidates
  constructor
  case candidates_eq => exact Naming.map_candidate_rulingsFrom _ _ _ _
  case entries_eq => exact congrArg Resolution.resolved hresolution
  case rejected_eq => exact (filterMap_rejected?_rulingsFrom _ _ _ _).symm
  case exhausted_eq => exact congrArg Resolution.exhausted hresolution

/-- Candidates are ruled on without regard to those behind them. -/
theorem rulings_prefix_append (candidates more : List Candidate) :
    rulings config candidates <+: rulings config (candidates ++ more) := by
  rw [rulings, rulings, Naming.rulingsFrom_append]
  exact List.prefix_append _ _

/-- A plan whose lists begin with those of another plan. -/
structure Continues (longer shorter : Plan) : Prop where
  entries : shorter.entries <+: longer.entries
  rejected : shorter.rejected <+: longer.rejected
  exhausted : shorter.exhausted <+: longer.exhausted

variable {shorter longer : Plan} {earlier all : List Candidate} {before after : List Ruling}

theorem Records.continues (hlonger : longer.Records all after)
    (hshorter : shorter.Records earlier before) (hrulings : before <+: after) :
    longer.Continues shorter := by
  constructor
  case entries =>
    rw [hshorter.entries_eq, hlonger.entries_eq]
    exact hrulings.filterMap _
  case rejected =>
    rw [hshorter.rejected_eq, hlonger.rejected_eq]
    exact hrulings.filterMap _
  case exhausted =>
    rw [hshorter.exhausted_eq, hlonger.exhausted_eq]
    exact hrulings.filterMap _

theorem make_append_continues (candidates more : List Candidate) :
    (make config (candidates ++ more)).Continues (make config candidates) := by
  apply (make_records config (candidates ++ more)).continues (make_records config candidates)
  exact rulings_prefix_append config candidates more

/-! ## The text -/

variable {template : Template}

/-- The blocks of a plan stand in the order of its entries. -/
theorem textBeforeHelper_make (hkeeps : template.KeepsLevel) (candidates : List Candidate) :
    template.textBeforeHelper config (make config candidates).entries =
      renderLines template.indent template.openingLines ++
        String.join ((make config candidates).entries.map (template.blockText config)) := by
  rw [textBeforeHelper_eq config hkeeps, inOrder_entries]

/-- New blocks come between the old ones and the helper. -/
theorem exists_text_added (hkeeps : template.KeepsLevel) (candidates more : List Candidate) :
    ∃ added, template.textBeforeHelper config (make config (candidates ++ more)).entries =
      template.textBeforeHelper config (make config candidates).entries ++ added := by
  -- Blocks begin at one level and do not know each other, so more entries are more blocks.
  obtain ⟨later, hlater⟩ := (make_append_continues config candidates more).entries
  refine ⟨String.join (later.map (template.blockText config)), ?_⟩
  rw [textBeforeHelper_make config hkeeps, textBeforeHelper_make config hkeeps, ← hlater,
    List.map_append, String.join_append, String.append_assoc]

/-- Adding candidates at the end is stable: what was ruled on the others and the lists of the plan
stay as they are and go on.  Up to the end of the last of the old blocks the text stays as it is,
and behind the blocks it does not depend on the candidates. -/
theorem make_append_stable (config : Config) (candidates more : List Candidate) :
    (∀ all, (make config all).Records all (rulings config all)) ∧
    rulings config candidates <+: rulings config (candidates ++ more) ∧
    (make config (candidates ++ more)).Continues (make config candidates) ∧
    ∀ template ∈ [unityScript, plainList],
      let before := template.textBeforeHelper config (make config candidates).entries
      ∃ added,
        template.emit config (make config candidates).entries =
          before ++ template.closingText ∧
        template.emit config (make config (candidates ++ more)).entries =
          before ++ added ++ template.closingText := by
  refine ⟨make_records config, rulings_prefix_append config candidates more,
    make_append_continues config candidates more, ?_⟩
  intro template htemplate before
  have hkeeps : template.KeepsLevel := by
    simp only [List.mem_cons, List.not_mem_nil, or_false] at htemplate
    rcases htemplate with rfl | rfl
    · exact keepsLevel_unityScript
    · exact keepsLevel_plainList
  obtain ⟨added, hadded⟩ := exists_text_added config hkeeps candidates more
  refine ⟨added, emit_eq_append config hkeeps _, ?_⟩
  rw [emit_eq_append config hkeeps, hadded]

end Plan

end AssetMenu
