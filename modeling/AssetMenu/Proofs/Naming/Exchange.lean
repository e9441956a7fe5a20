import AssetMenu.Proofs.Naming.Rulings
import Mathlib.Data.List.Basic

/-!
# Candidates that do not compete

Two candidates that have no form and no possible name in common refuse each other nothing,
whatever was taken before.  Served one after the other in either order they leave the same
texts and names taken, so all others are served alike too.  Only the numbers of the two
entries depend on the order.
-/

namespace AssetMenu

/-- Two verdicts with the numbers of their entries exchanged, if there are two entries. -/
def Verdict.exchange : Verdict → Verdict → Verdict × Verdict
  | .named identifier ordinal, .named other position =>
      (.named identifier position, .named other ordinal)
  | first, second => (first, second)

namespace Naming

variable {affixes : Affixes} {left right : Candidate}

/-- What is ruled on candidates if all of them are named. -/
def rulings (affixes : Affixes) (candidates : List Candidate) : List Ruling :=
  rulingsFrom (fun _ => none) affixes Taken.none candidates

theorem resolveAll_eq_ofRulings (affixes : Affixes) (candidates : List Candidate) :
    resolveAll affixes candidates = .ofRulings (rulings affixes candidates) := by
  rw [resolveAll, rulings, ← resolveFrom_eq_ofRulings]
  simp

/-- Neither of two candidates can take a text or a name that the other asks for. -/
structure Independent (affixes : Affixes) (left right : Candidate) : Prop where
  forms : (forms left).Disjoint (forms right)
  names : ((Naming.forms left).map (compose affixes left)).Disjoint
    ((Naming.forms right).map (compose affixes right))

namespace Independent

theorem symm (hindependent : Independent affixes left right) : Independent affixes right left :=
  ⟨List.disjoint_symm hindependent.forms, List.disjoint_symm hindependent.names⟩

/-- What becomes of a candidate does not depend on whether the other one was served. -/
theorem outcomeOf_after (hindependent : Independent affixes left right) (taken : Taken) :
    outcomeOf affixes (taken.after affixes (outcomeOf affixes taken left)) right =
      outcomeOf affixes taken right := by
  have hchoice : choice? affixes (taken.after affixes (outcomeOf affixes taken left)) right =
      choice? affixes taken right := by
    apply choice?_congr
    · intro form hform
      rw [exclusive_base.held_after, List.mem_append, Option.mem_toList, or_iff_right]
      intro hclaim
      exact hindependent.forms (outcomeOf_base_eq_some hclaim).1 hform
    · intro form hform
      rw [exclusive_identifier.held_after, List.mem_append, Option.mem_toList, or_iff_right]
      intro hclaim
      obtain ⟨base, hbase, hsame⟩ := Option.map_eq_some_iff.mp hclaim
      have hleft : compose affixes right form ∈
          (Naming.forms left).map (compose affixes left) :=
        List.mem_map.mpr ⟨base, (outcomeOf_base_eq_some hbase).1, hsame⟩
      exact hindependent.names hleft (List.mem_map_of_mem hform)
  rw [outcomeOf, hchoice, outcomeOf]

theorem rulingsFrom_exchange (hindependent : Independent affixes left right) (taken : Taken)
    (rest : List Candidate) :
    ∃ first second after,
      rulingsFrom (fun _ => none) affixes taken (left :: right :: rest) =
        ⟨left, first⟩ :: ⟨right, second⟩ :: after ∧
      rulingsFrom (fun _ => none) affixes taken (right :: left :: rest) =
        ⟨right, (first.exchange second).2⟩ :: ⟨left, (first.exchange second).1⟩ :: after := by
  -- Either order settles the same two outcomes, so those behind them find the same taken.
  have hright := hindependent.outcomeOf_after taken
  have hleft := hindependent.symm.outcomeOf_after taken
  have halike := Taken.alike_after_after affixes taken (outcomeOf affixes taken left)
    (outcomeOf affixes taken right)
  have hrest := halike.rulingsFrom_eq (fun _ => none) affixes rest
  refine ⟨_, _, _, rfl, ?_⟩
  simp only [rulingsFrom, takenBy, verdictOf, hright, hleft, ← hrest, List.cons.injEq,
    Ruling.mk.injEq, true_and, and_true]
  cases hfirst : (outcomeOf affixes taken left).base <;>
    cases hsecond : (outcomeOf affixes taken right).base <;>
      simp [Verdict.exchange, Taken.after, hfirst, hsecond]

end Independent

/-- Two candidates next to each other that do not compete can be served in either order: at
every place of the list the verdict is the same, but that the two entries, if there are two,
exchange their numbers. -/
theorem resolveAll_exchange (affixes : Affixes) (earlier later : List Candidate)
    {left right : Candidate} (hindependent : Independent affixes left right) :
    (∀ candidates, resolveAll affixes candidates = .ofRulings (rulings affixes candidates) ∧
      (rulings affixes candidates).map (·.candidate) = candidates) ∧
    ∃ before first second after, before.map (·.candidate) = earlier ∧
      rulings affixes (earlier ++ left :: right :: later) =
        before ++ ⟨left, first⟩ :: ⟨right, second⟩ :: after ∧
      rulings affixes (earlier ++ right :: left :: later) =
        before ++ ⟨right, (first.exchange second).2⟩ :: ⟨left, (first.exchange second).1⟩ ::
          after := by
  constructor
  case left =>
    intro candidates
    exact ⟨resolveAll_eq_ofRulings affixes candidates, map_candidate_rulingsFrom _ _ _ _⟩
  case right =>
    obtain ⟨first, second, after, hforth, hback⟩ :=
      hindependent.rulingsFrom_exchange
        (earlier.foldl (takenBy (fun _ => none) affixes) Taken.none) later
    refine ⟨rulingsFrom (fun _ => none) affixes Taken.none earlier, first, second, after,
      map_candidate_rulingsFrom _ _ _ _, ?_, ?_⟩
    · rw [rulings, rulingsFrom_append, hforth]
    · rw [rulings, rulingsFrom_append, hback]

/-- A candidate of the given type, with a text before its name. -/
def weapon (fullName before : String) : Candidate :=
  ⟨⟨fullName, none, false, false, true, []⟩, ⟨⟨before, ""⟩, none⟩⟩

/-- One of the two candidates has to do without its simple name, in either order, and the first
candidate behind them as well. -/
theorem resolveAll_exchange_weapons :
    let affixes : Affixes := ⟨"", "!"⟩
    let earlier := [weapon "A.Sword" ""]
    let left := weapon "B.Sword" "Old/"
    let right := weapon "C.Bow" ""
    let later := [weapon "D.Bow" "New/", weapon "Shield" ""]
    Independent affixes left right ∧
      rulings affixes (earlier ++ left :: right :: later) =
        [ ⟨weapon "A.Sword" "", .named "Sword!" 0⟩, ⟨left, .named "Old/B.Sword!" 1⟩,
          ⟨right, .named "Bow!" 2⟩, ⟨weapon "D.Bow" "New/", .named "New/D.Bow!" 3⟩,
          ⟨weapon "Shield" "", .named "Shield!" 4⟩ ] ∧
      ∃ before first second after, before.map (·.candidate) = earlier ∧
        rulings affixes (earlier ++ left :: right :: later) =
          before ++ ⟨left, first⟩ :: ⟨right, second⟩ :: after ∧
        rulings affixes (earlier ++ right :: left :: later) =
          before ++ ⟨right, (first.exchange second).2⟩ ::
            ⟨left, (first.exchange second).1⟩ :: after := by
  intro affixes earlier left right later
  have hindependent : Independent affixes left right := by
    constructor <;> rw [List.disjoint_left] <;> decide
  exact ⟨hindependent, by decide,
    (resolveAll_exchange affixes earlier later hindependent).2⟩

end Naming

end AssetMenu
