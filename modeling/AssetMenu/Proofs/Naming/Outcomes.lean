import AssetMenu.Naming
import Mathlib.Data.List.Nodup

/-!
# What becomes of each candidate

Naming answers with two lists, those that got a name and those that did not.
Here the run is written down candidate by candidate, with the text each of them
is named after.  The two lists are read off this record, and what is taken at
any time is what the outcomes up to then took, so that every refusal can be
traced to an earlier candidate.
-/

namespace AssetMenu.Naming

/-- What became of a candidate: the text that it is named after, if any. -/
structure Outcome where
  candidate : Candidate
  base : Option String
  deriving DecidableEq, Repr

/-- The name that a candidate got. -/
def Outcome.identifier? (affixes : Affixes) (outcome : Outcome) : Option String :=
  outcome.base.map (compose affixes outcome.candidate)

/-- What is taken once an outcome is settled. -/
def Taken.after (affixes : Affixes) (taken : Taken) (outcome : Outcome) : Taken :=
  match outcome.base with
  | some base =>
      ⟨base :: taken.bases, compose affixes outcome.candidate base :: taken.identifiers,
        taken.count + 1⟩
  | Option.none => taken

/-- What becomes of a candidate whose turn it is. -/
def outcomeOf (affixes : Affixes) (taken : Taken) (candidate : Candidate) : Outcome :=
  ⟨candidate, (choice? affixes taken candidate).map Prod.fst⟩

/-- What becomes of candidates that are served in their order. -/
def outcomes (affixes : Affixes) : Taken → List Candidate → List Outcome
  | _, [] => []
  | taken, candidate :: rest =>
      let outcome := outcomeOf affixes taken candidate
      outcome :: outcomes affixes (taken.after affixes outcome) rest

variable {affixes : Affixes} {taken : Taken} {candidate : Candidate}

@[simp]
theorem outcomeOf_candidate : (outcomeOf affixes taken candidate).candidate = candidate := rfl

@[simp]
theorem map_candidate_outcomes (candidates : List Candidate) :
    (outcomes affixes taken candidates).map (·.candidate) = candidates := by
  induction candidates generalizing taken with
  | nil => rfl
  | cons candidate rest ih => simp [outcomes, ih]

/-! ## One candidate -/

/-- A choice is one of the two forms, and neither it nor the name made of it was
taken before. -/
theorem choice?_eq_some {base identifier : String}
    (hchoice : choice? affixes taken candidate = some (base, identifier)) :
    base ∈ forms candidate ∧ identifier = compose affixes candidate base ∧
      base ∉ taken.bases ∧ identifier ∉ taken.identifiers := by
  obtain ⟨form, hform, hfound⟩ := List.exists_of_findSome?_eq_some hchoice
  simp only [Option.ite_none_left_eq_some, not_or, Option.some.injEq, Prod.mk.injEq] at hfound
  obtain ⟨⟨hbase, hidentifier⟩, rfl, rfl⟩ := hfound
  exact ⟨hform, rfl, hbase, hidentifier⟩

theorem choice?_eq_none (hchoice : choice? affixes taken candidate = none)
    {form : String} (hform : form ∈ forms candidate) :
    form ∈ taken.bases ∨ compose affixes candidate form ∈ taken.identifiers := by
  have hrefused := List.findSome?_eq_none_iff.mp hchoice form hform
  by_contra hfree
  simp [hfree] at hrefused

/-- Naming one candidate writes its outcome down, under the next number. -/
theorem resolve?_eq_outcomeOf :
    resolve? affixes taken candidate =
      (outcomeOf affixes taken candidate).base.map fun base =>
        (⟨candidate, compose affixes candidate base, taken.count⟩,
          taken.after affixes (outcomeOf affixes taken candidate)) := by
  cases hchoice : choice? affixes taken candidate with
  | none => simp [resolve?, outcomeOf, hchoice]
  | some choice =>
      obtain ⟨base, identifier⟩ := choice
      obtain ⟨-, rfl, -, -⟩ := choice?_eq_some hchoice
      simp [resolve?, outcomeOf, Taken.after, hchoice]

theorem outcomeOf_base_eq_some {base : String}
    (hbase : (outcomeOf affixes taken candidate).base = some base) :
    base ∈ forms candidate ∧ base ∉ taken.bases ∧
      compose affixes candidate base ∉ taken.identifiers := by
  obtain ⟨⟨chosen, identifier⟩, hchoice, rfl⟩ := Option.map_eq_some_iff.mp hbase
  obtain ⟨hform, rfl, hfree, hunused⟩ := choice?_eq_some hchoice
  exact ⟨hform, hfree, hunused⟩

theorem outcomeOf_base_eq_none (hbase : (outcomeOf affixes taken candidate).base = none)
    {form : String} (hform : form ∈ forms candidate) :
    form ∈ taken.bases ∨ compose affixes candidate form ∈ taken.identifiers :=
  choice?_eq_none (Option.map_eq_none_iff.mp hbase) hform

/-! ## A whole run -/

/-- An outcome is what naming does at its turn, where all outcomes before it have
been settled. -/
theorem eq_outcomeOf_of_outcomes_eq {candidates : List Candidate} {before after : List Outcome}
    {outcome : Outcome} (hsplit : outcomes affixes taken candidates = before ++ outcome :: after) :
    outcome =
      outcomeOf affixes (before.foldl (Taken.after affixes) taken) outcome.candidate := by
  induction before generalizing taken candidates with
  | nil =>
      cases candidates with
      | nil => simp [outcomes] at hsplit
      | cons candidate rest =>
          obtain ⟨rfl, -⟩ := List.cons.inj hsplit
          rfl
  | cons first before ih =>
      cases candidates with
      | nil => simp [outcomes] at hsplit
      | cons candidate rest =>
          obtain ⟨rfl, hrest⟩ := List.cons.inj hsplit
          exact ih hrest

/-- A text that an outcome lays claim to, and the texts that are taken by such
claims: whoever comes later gets another text. -/
structure Exclusive (affixes : Affixes) (claim : Outcome → Option String)
    (held : Taken → List String) : Prop where
  held_after : ∀ taken outcome,
    held (Taken.after affixes taken outcome) = (claim outcome).toList ++ held taken
  not_held : ∀ taken candidate text,
    claim (outcomeOf affixes taken candidate) = some text → text ∉ held taken

namespace Exclusive

variable {claim : Outcome → Option String} {held : Taken → List String}

/-- What is held after some outcomes was held before or is claimed by one of
them. -/
theorem mem_held_foldl (hexclusive : Exclusive affixes claim held) (before : List Outcome)
    {text : String} :
    text ∈ held (before.foldl (Taken.after affixes) taken) ↔
      text ∈ held taken ∨ ∃ earlier ∈ before, claim earlier = some text := by
  induction before generalizing taken with
  | nil => simp
  | cons first before ih =>
      simp only [List.foldl_cons, ih, hexclusive.held_after, List.mem_append,
        Option.mem_toList, List.exists_mem_cons_iff]
      tauto

theorem not_held_of_mem (hexclusive : Exclusive affixes claim held)
    (candidates : List Candidate) {text : String}
    (htext : text ∈ (outcomes affixes taken candidates).filterMap claim) :
    text ∉ held taken := by
  induction candidates generalizing taken with
  | nil => simp [outcomes] at htext
  | cons candidate rest ih =>
      simp only [outcomes, List.mem_filterMap, List.exists_mem_cons_iff] at htext
      rcases htext with hfirst | ⟨outcome, houtcome, hclaim⟩
      · exact hexclusive.not_held taken candidate text hfirst
      · have hlater := ih (List.mem_filterMap.mpr ⟨outcome, houtcome, hclaim⟩)
        rw [hexclusive.held_after] at hlater
        exact fun hheld => hlater (List.mem_append_right _ hheld)

theorem nodup (hexclusive : Exclusive affixes claim held) (candidates : List Candidate) :
    ((outcomes affixes taken candidates).filterMap claim).Nodup := by
  induction candidates generalizing taken with
  | nil => exact List.nodup_nil
  | cons candidate rest ih =>
      rw [outcomes, List.filterMap_cons]
      cases hclaim : claim (outcomeOf affixes taken candidate) with
      | none => exact ih
      | some text =>
          rw [List.nodup_cons]
          refine ⟨?_, ih⟩
          intro hagain
          apply hexclusive.not_held_of_mem rest hagain
          simp [hexclusive.held_after, hclaim]

end Exclusive

theorem exclusive_base : Exclusive affixes Outcome.base Taken.bases where
  held_after taken outcome := by
    cases hbase : outcome.base <;> simp [Taken.after, hbase]
  not_held taken candidate base hbase := (outcomeOf_base_eq_some hbase).2.1

theorem exclusive_identifier :
    Exclusive affixes (Outcome.identifier? affixes) Taken.identifiers where
  held_after taken outcome := by
    cases hbase : outcome.base <;> simp [Taken.after, Outcome.identifier?, hbase]
  not_held taken candidate identifier hidentifier := by
    obtain ⟨base, hbase, rfl⟩ := Option.map_eq_some_iff.mp hidentifier
    exact (outcomeOf_base_eq_some hbase).2.2

/-- A form that was refused is the base of an earlier outcome, or would have made
the name of one. -/
theorem refused_by_earlier {candidates : List Candidate} {before after : List Outcome}
    {candidate : Candidate}
    (hsplit : outcomes affixes Taken.none candidates = before ++ ⟨candidate, none⟩ :: after)
    {form : String} (hform : form ∈ forms candidate) :
    ∃ earlier ∈ before, earlier.base = some form ∨
      earlier.identifier? affixes = some (compose affixes candidate form) := by
  have hrefused := congrArg Outcome.base (eq_outcomeOf_of_outcomes_eq hsplit)
  rcases outcomeOf_base_eq_none hrefused.symm hform with htaken | htaken
  · rw [exclusive_base.mem_held_foldl] at htaken
    obtain hnone | ⟨earlier, hearlier, hbase⟩ := htaken
    · simp [Taken.none] at hnone
    · exact ⟨earlier, hearlier, Or.inl hbase⟩
  · rw [exclusive_identifier.mem_held_foldl] at htaken
    obtain hnone | ⟨earlier, hearlier, hidentifier⟩ := htaken
    · simp [Taken.none] at hnone
    · exact ⟨earlier, hearlier, Or.inr hidentifier⟩

/-! ## The two lists of a resolution -/

theorem resolveFrom_cons (rest : List Candidate) :
    resolveFrom affixes taken (candidate :: rest) =
      let outcome := outcomeOf affixes taken candidate
      let others := resolveFrom affixes (taken.after affixes outcome) rest
      match outcome.base with
      | some base =>
          { others with
            resolved := ⟨candidate, compose affixes candidate base, taken.count⟩ ::
              others.resolved }
      | Option.none => { others with exhausted := candidate :: others.exhausted } := by
  cases hbase : (outcomeOf affixes taken candidate).base <;>
    simp [resolveFrom, resolve?_eq_outcomeOf, hbase, Taken.after]

theorem exhausted_resolveFrom (candidates : List Candidate) :
    (resolveFrom affixes taken candidates).exhausted =
      ((outcomes affixes taken candidates).filter (·.base.isNone)).map (·.candidate) := by
  induction candidates generalizing taken with
  | nil => rfl
  | cons candidate rest ih =>
      cases hbase : (outcomeOf affixes taken candidate).base <;>
        simp [resolveFrom_cons, outcomes, hbase, ih]

theorem map_candidate_resolveFrom (candidates : List Candidate) :
    (resolveFrom affixes taken candidates).resolved.map (·.candidate) =
      ((outcomes affixes taken candidates).filter (·.base.isSome)).map (·.candidate) := by
  induction candidates generalizing taken with
  | nil => rfl
  | cons candidate rest ih =>
      cases hbase : (outcomeOf affixes taken candidate).base <;>
        simp [resolveFrom_cons, outcomes, hbase, ih]

theorem map_identifier_resolveFrom (candidates : List Candidate) :
    (resolveFrom affixes taken candidates).resolved.map (·.identifier) =
      (outcomes affixes taken candidates).filterMap (·.identifier? affixes) := by
  induction candidates generalizing taken with
  | nil => rfl
  | cons candidate rest ih =>
      cases hbase : (outcomeOf affixes taken candidate).base <;>
        simp [resolveFrom_cons, outcomes, Outcome.identifier?, hbase, ih]

/-- The candidates that got a name, with their names. -/
theorem map_named_resolveFrom (candidates : List Candidate) :
    (resolveFrom affixes taken candidates).resolved.map
        (fun named => (named.candidate, named.identifier)) =
      (outcomes affixes taken candidates).filterMap fun outcome => outcome.base.map fun base =>
        (outcome.candidate, compose affixes outcome.candidate base) := by
  induction candidates generalizing taken with
  | nil => rfl
  | cons candidate rest ih =>
      cases hbase : (outcomeOf affixes taken candidate).base <;>
        simp [resolveFrom_cons, outcomes, hbase, ih]

/-- A name is composed of one of the forms of its candidate. -/
theorem exists_form_of_mem_resolveFrom {candidates : List Candidate} {resolved : Resolved}
    (hresolved : resolved ∈ (resolveFrom affixes taken candidates).resolved) :
    ∃ base ∈ forms resolved.candidate,
      resolved.identifier = compose affixes resolved.candidate base := by
  induction candidates generalizing taken with
  | nil => simp [resolveFrom] at hresolved
  | cons candidate rest ih =>
      rw [resolveFrom_cons] at hresolved
      cases hbase : (outcomeOf affixes taken candidate).base with
      | none =>
          simp only [hbase] at hresolved
          exact ih hresolved
      | some base =>
          simp only [hbase, List.mem_cons] at hresolved
          rcases hresolved with rfl | hrest
          · exact ⟨base, (outcomeOf_base_eq_some hbase).1, rfl⟩
          · exact ih hrest

theorem resolved_sublist (candidates : List Candidate) :
    ((resolveFrom affixes taken candidates).resolved.map (·.candidate)).Sublist candidates := by
  rw [map_candidate_resolveFrom]
  conv_rhs => rw [← @map_candidate_outcomes affixes taken candidates]
  exact List.filter_sublist.map _

theorem exhausted_sublist (candidates : List Candidate) :
    (resolveFrom affixes taken candidates).exhausted.Sublist candidates := by
  rw [exhausted_resolveFrom]
  conv_rhs => rw [← @map_candidate_outcomes affixes taken candidates]
  exact List.filter_sublist.map _

/-- No candidate is lost and none is served twice. -/
theorem resolved_append_exhausted_perm (candidates : List Candidate) :
    ((resolveFrom affixes taken candidates).resolved.map (·.candidate) ++
      (resolveFrom affixes taken candidates).exhausted).Perm candidates := by
  rw [map_candidate_resolveFrom, exhausted_resolveFrom, ← List.map_append]
  conv_rhs => rw [← @map_candidate_outcomes affixes taken candidates]
  apply List.Perm.map
  have hsplit := List.filter_append_perm (fun outcome : Outcome => outcome.base.isSome)
    (outcomes affixes taken candidates)
  simpa using hsplit

/-- Numbers go on from the count of names given before, without a gap where a
candidate got none. -/
theorem map_ordinal_resolveFrom (candidates : List Candidate) :
    (resolveFrom affixes taken candidates).resolved.map (·.ordinal) =
      List.range' taken.count (resolveFrom affixes taken candidates).resolved.length := by
  induction candidates generalizing taken with
  | nil => rfl
  | cons candidate rest ih =>
      cases hbase : (outcomeOf affixes taken candidate).base <;>
        simp [resolveFrom_cons, hbase, ih, Taken.after, List.range'_succ]

/-! ## Every candidate is settled -/

/-- A resolution that treats candidates as `outcomes` says. -/
structure Settles (affixes : Affixes) (candidates : List Candidate)
    (resolution : Resolution) (outcomes : List Outcome) : Prop where
  /-- There is one outcome for each candidate, in the same order. -/
  candidates_eq : outcomes.map (·.candidate) = candidates
  /-- The named candidates are those with a base, in their order. -/
  resolved_eq :
    resolution.resolved.map (·.candidate) =
      (outcomes.filter (·.base.isSome)).map (·.candidate)
  /-- The others got no name, in their order. -/
  exhausted_eq :
    resolution.exhausted = (outcomes.filter (·.base.isNone)).map (·.candidate)
  /-- A name is the base within the texts of the tag, within those of the run. -/
  identifiers_eq :
    resolution.resolved.map (·.identifier) =
      outcomes.filterMap fun outcome => outcome.base.map fun base =>
        affixes.before ++ outcome.candidate.tag.affixes.before ++ base ++
          outcome.candidate.tag.affixes.after ++ affixes.after
  ordinals_eq :
    resolution.resolved.map (·.ordinal) = List.range resolution.resolved.length
  identifiers_nodup : (resolution.resolved.map (·.identifier)).Nodup
  bases_nodup : (outcomes.filterMap (·.base)).Nodup
  base_is_form : ∀ outcome ∈ outcomes, ∀ base, outcome.base = some base →
    base = outcome.candidate.type.simpleName ∨ base = outcome.candidate.type.fullName
  /-- Nobody goes without a name while one of the forms can be had. -/
  exhausted_for_cause : ∀ before candidate after,
    outcomes = before ++ ⟨candidate, none⟩ :: after →
      ∀ form, form = candidate.type.simpleName ∨ form = candidate.type.fullName →
        ∃ earlier ∈ before, ∃ base, earlier.base = some base ∧
          (base = form ∨
            compose affixes earlier.candidate base = compose affixes candidate form)

theorem resolveAll_settles_candidates (affixes : Affixes) (candidates : List Candidate) :
    ∃ outcomes, Settles affixes candidates (resolveAll affixes candidates) outcomes := by
  refine ⟨outcomes affixes Taken.none candidates, ?_⟩
  constructor
  case candidates_eq => exact map_candidate_outcomes candidates
  case resolved_eq => exact map_candidate_resolveFrom candidates
  case exhausted_eq => exact exhausted_resolveFrom candidates
  case identifiers_eq => exact map_identifier_resolveFrom candidates
  case ordinals_eq =>
    rw [resolveAll, map_ordinal_resolveFrom, List.range_eq_range']
    rfl
  case identifiers_nodup =>
    rw [resolveAll, map_identifier_resolveFrom]
    exact exclusive_identifier.nodup candidates
  case bases_nodup => exact exclusive_base.nodup candidates
  case base_is_form =>
    intro outcome houtcome base hbase
    obtain ⟨before, after, hsplit⟩ := List.append_of_mem houtcome
    rw [eq_outcomeOf_of_outcomes_eq hsplit] at hbase
    simpa [forms] using (outcomeOf_base_eq_some hbase).1
  case exhausted_for_cause =>
    intro before candidate after hsplit form hform
    obtain ⟨earlier, hearlier, hcause⟩ :=
      refused_by_earlier hsplit (by simpa [forms] using hform)
    rcases hcause with hbase | hidentifier
    · exact ⟨earlier, hearlier, form, hbase, Or.inl rfl⟩
    · obtain ⟨base, hbase, hsame⟩ := Option.map_eq_some_iff.mp hidentifier
      exact ⟨earlier, hearlier, base, hbase, Or.inr hsame⟩

end AssetMenu.Naming
