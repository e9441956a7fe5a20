import AssetMenu.Proofs.Naming.Outcomes
import AssetMenu.Proofs.TypeName.Grammar

/-!
# Naming candidates whose tags agree

Where all tags put the same texts around a name, two names are the same only if they
are made of the same text.  A simple name has no separator in it, and a full name that
has none is its own simple name, so a text that is asked for as a simple name was never
taken as the full name of a qualified type.  Hence it depends on the names of the
earlier types alone what becomes of a candidate.
-/

namespace AssetMenu

/-- Is the text parted into segments? -/
def isParted (text : String) : Bool :=
  text.toList.any TypeName.isSeparator

theorem isParted_simpleName (fullName : String) : isParted (simpleName fullName) = false := by
  rw [isParted, toList_simpleName, List.any_eq_false]
  intro c hc
  have hcut := (Text.exists_mem_fields_iff.mp
    ⟨_, TypeName.lastSegment_mem_segments fullName.toList, hc⟩).2
  simp [hcut]

theorem simpleName_eq_self {fullName : String} (hname : isParted fullName = false) :
    simpleName fullName = fullName := by
  apply String.toList_injective
  rw [toList_simpleName]
  apply TypeName.lastSegment_of_unparted
  intro c hc
  simpa using List.any_eq_false.mp hname c hc

namespace Naming

/-- The name of an entry whose tag has the given texts. -/
def enclose (affixes texts : Affixes) (base : String) : String :=
  affixes.before ++ texts.before ++ base ++ texts.after ++ affixes.after

theorem compose_eq_enclose (affixes : Affixes) (candidate : Candidate) (base : String) :
    compose affixes candidate base = enclose affixes candidate.tag.affixes base := rfl

theorem enclose_injective (affixes texts : Affixes) :
    Function.Injective (enclose affixes texts) := by
  intro left right hsame
  rw [enclose, enclose, String.append_left_inj, String.append_left_inj,
    String.append_right_inj] at hsame
  exact hsame

/-- The text that a candidate is named after, if the tags of the candidates before it put the
same texts around a name as its own. -/
def baseAmong? (earlier : List Candidate) (candidate : Candidate) : Option String :=
  if ∀ other ∈ earlier, other.type.simpleName ≠ candidate.type.simpleName then
    some candidate.type.simpleName
  else if isParted candidate.type.fullName then some candidate.type.fullName
  else none

theorem baseAmong?_eq_some_iff {earlier : List Candidate} {candidate : Candidate} {base : String} :
    baseAmong? earlier candidate = some base ↔
      base = candidate.type.simpleName ∧
          (∀ other ∈ earlier, other.type.simpleName ≠ candidate.type.simpleName) ∨
        base = candidate.type.fullName ∧ isParted candidate.type.fullName = true ∧
          ∃ other ∈ earlier, other.type.simpleName = candidate.type.simpleName := by
  rw [baseAmong?]
  split
  next hfirst =>
    constructor
    · intro hbase
      exact Or.inl ⟨(Option.some.inj hbase).symm, hfirst⟩
    · rintro (⟨rfl, -⟩ | ⟨-, -, other, hother, hsame⟩)
      · rfl
      · exact absurd hsame (hfirst other hother)
  next hmet =>
    have hheld : ∃ other ∈ earlier, other.type.simpleName = candidate.type.simpleName := by
      simpa using hmet
    constructor
    · intro hbase
      obtain ⟨hparted, hfull⟩ := Option.ite_none_right_eq_some.mp hbase
      exact Or.inr ⟨(Option.some.inj hfull).symm, hparted, hheld⟩
    · rintro (⟨-, hfirst⟩ | ⟨rfl, hparted, -⟩)
      · exact absurd hfirst hmet
      · rw [if_pos hparted]

/-- What is taken by earlier candidates whose tags have the given texts. -/
structure Occupies (affixes texts : Affixes) (earlier : List Candidate) (taken : Taken) :
    Prop where
  simple_iff : ∀ text, isParted text = false →
    (text ∈ taken.bases ↔ ∃ other ∈ earlier, other.type.simpleName = text)
  full : ∀ text ∈ taken.bases, isParted text = true →
    ∃ other ∈ earlier, other.type.fullName = text
  identifiers_eq : taken.identifiers = taken.bases.map (enclose affixes texts)

theorem occupies_none (affixes texts : Affixes) : Occupies affixes texts [] Taken.none where
  simple_iff := by simp [Taken.none]
  full := by simp [Taken.none]
  identifiers_eq := rfl

namespace Occupies

variable {affixes texts : Affixes} {earlier : List Candidate} {taken : Taken}
  {candidate : Candidate}

/-- Only the texts that names are made of get in the way of each other. -/
theorem outcomeOf_base_eq (hoccupies : Occupies affixes texts earlier taken)
    (htexts : candidate.tag.affixes = texts) :
    (outcomeOf affixes taken candidate).base =
      if candidate.type.simpleName ∉ taken.bases then some candidate.type.simpleName
      else if candidate.type.fullName ∉ taken.bases then some candidate.type.fullName
      else none := by
  have htaken : ∀ base, compose affixes candidate base ∈ taken.identifiers ↔
      base ∈ taken.bases := by
    intro base
    rw [compose_eq_enclose, htexts, hoccupies.identifiers_eq,
      List.mem_map_of_injective (enclose_injective affixes texts)]
  by_cases hsimple : candidate.type.simpleName ∈ taken.bases
  · by_cases hfull : candidate.type.fullName ∈ taken.bases
    · simp [outcomeOf, choice?, forms, htaken, hsimple, hfull]
    · simp [outcomeOf, choice?, forms, htaken, hsimple, hfull]
  · simp [outcomeOf, choice?, forms, htaken, hsimple]

theorem outcomeOf_base (hoccupies : Occupies affixes texts earlier taken)
    (htexts : candidate.tag.affixes = texts)
    (hnew : ∀ other ∈ earlier, other.type.fullName ≠ candidate.type.fullName) :
    (outcomeOf affixes taken candidate).base = baseAmong? earlier candidate := by
  have hsimple := hoccupies.simple_iff candidate.type.simpleName (isParted_simpleName _)
  rw [hoccupies.outcomeOf_base_eq htexts, baseAmong?]
  by_cases hfirst : ∀ other ∈ earlier, other.type.simpleName ≠ candidate.type.simpleName
  case pos =>
    have hfree : candidate.type.simpleName ∉ taken.bases := by
      rw [hsimple]
      rintro ⟨other, hother, hsame⟩
      exact hfirst other hother hsame
    rw [if_pos hfree, if_pos hfirst]
  case neg =>
    have hheld : candidate.type.simpleName ∈ taken.bases := by
      rw [hsimple]
      simpa using hfirst
    rw [if_neg (not_not.mpr hheld), if_neg hfirst]
    cases hparted : isParted candidate.type.fullName with
    | true =>
        have hfree : candidate.type.fullName ∉ taken.bases := by
          intro htaken
          obtain ⟨other, hother, hsame⟩ := hoccupies.full _ htaken hparted
          exact hnew other hother hsame
        simp [hfree]
    | false =>
        have hself : candidate.type.simpleName = candidate.type.fullName :=
          simpleName_eq_self hparted
        simp [← hself, hheld]

/-- A simple name is held by the first candidate that has it, and other texts only by the types
of which they are the full names. -/
theorem after (hoccupies : Occupies affixes texts earlier taken)
    (htexts : candidate.tag.affixes = texts)
    (hnew : ∀ other ∈ earlier, other.type.fullName ≠ candidate.type.fullName) :
    Occupies affixes texts (earlier ++ [candidate])
      (taken.after affixes (outcomeOf affixes taken candidate)) := by
  have hbase := hoccupies.outcomeOf_base htexts hnew
  constructor
  case simple_iff =>
    intro text htext
    rw [exclusive_base.held_after, hbase, List.mem_append, Option.mem_toList,
      baseAmong?_eq_some_iff, hoccupies.simple_iff text htext]
    constructor
    · rintro ((⟨rfl, -⟩ | ⟨rfl, hparted, -⟩) | ⟨other, hother, hsame⟩)
      · exact ⟨candidate, by simp, rfl⟩
      · simp [hparted] at htext
      · exact ⟨other, List.mem_append_left _ hother, hsame⟩
    · rintro ⟨other, hother, rfl⟩
      rcases List.mem_append.mp hother with hearlier | hlast
      · exact Or.inr ⟨other, hearlier, rfl⟩
      · obtain rfl := List.mem_singleton.mp hlast
        by_cases hmet : ∃ earlierOne ∈ earlier, earlierOne.type.simpleName = other.type.simpleName
        · exact Or.inr hmet
        · exact Or.inl (Or.inl ⟨rfl, by simpa using hmet⟩)
  case full =>
    intro text htext hparted
    rw [exclusive_base.held_after, hbase, List.mem_append, Option.mem_toList,
      baseAmong?_eq_some_iff] at htext
    rcases htext with (⟨rfl, -⟩ | ⟨rfl, -, -⟩) | htext
    · rw [TypeInfo.simpleName, isParted_simpleName] at hparted
      contradiction
    · exact ⟨candidate, by simp, rfl⟩
    · obtain ⟨other, hother, hsame⟩ := hoccupies.full text htext hparted
      exact ⟨other, List.mem_append_left _ hother, hsame⟩
  case identifiers_eq =>
    rw [exclusive_base.held_after, exclusive_identifier.held_after, hoccupies.identifiers_eq,
      List.map_append, Outcome.identifier?, outcomeOf_candidate]
    cases (outcomeOf affixes taken candidate).base with
    | none => rfl
    | some base => simp [compose_eq_enclose, htexts]

end Occupies

/-- What becomes of candidates, told from the names of the candidates before them. -/
def closedOutcomes (earlier candidates : List Candidate) : List Outcome :=
  candidates.mapIdx fun k candidate =>
    ⟨candidate, baseAmong? (earlier ++ candidates.take k) candidate⟩

theorem closedOutcomes_cons (earlier : List Candidate) (candidate : Candidate)
    (rest : List Candidate) :
    closedOutcomes earlier (candidate :: rest) =
      ⟨candidate, baseAmong? earlier candidate⟩ ::
        closedOutcomes (earlier ++ [candidate]) rest := by
  simp [closedOutcomes, List.mapIdx_cons]

theorem outcomes_eq_closedOutcomes {affixes texts : Affixes} {earlier candidates : List Candidate}
    {taken : Taken} (hoccupies : Occupies affixes texts earlier taken)
    (hnames : ((earlier ++ candidates).map (·.type.fullName)).Nodup)
    (htexts : ∀ candidate ∈ candidates, candidate.tag.affixes = texts) :
    outcomes affixes taken candidates = closedOutcomes earlier candidates := by
  induction candidates generalizing earlier taken with
  | nil => rfl
  | cons candidate rest ih =>
      obtain ⟨hfirst, hrest⟩ := List.forall_mem_cons.mp htexts
      have hnew : ∀ other ∈ earlier, other.type.fullName ≠ candidate.type.fullName := by
        intro other hother
        rw [List.map_append, List.nodup_append] at hnames
        exact hnames.2.2 _ (List.mem_map_of_mem hother) _ (by simp)
      rw [List.append_cons] at hnames
      rw [outcomes, closedOutcomes_cons, ih (hoccupies.after hfirst hnew) hnames hrest,
        ← hoccupies.outcomeOf_base hfirst hnew]
      rfl

/-- Candidates of distinct types whose tags agree are named after their simple names, of which
each goes to the first that has it; the others are named after their full names, if these have
more to them, and else get no name. -/
theorem resolveAll_of_affixes_eq (affixes texts : Affixes) {candidates : List Candidate}
    (hnames : (candidates.map (·.type.fullName)).Nodup)
    (htexts : ∀ candidate ∈ candidates, candidate.tag.affixes = texts) :
    (resolveAll affixes candidates).resolved.map
          (fun named => (named.candidate, named.identifier)) =
        (closedOutcomes [] candidates).filterMap (fun outcome => outcome.base.map fun base =>
          (outcome.candidate, compose affixes outcome.candidate base)) ∧
      (resolveAll affixes candidates).exhausted =
        ((closedOutcomes [] candidates).filter (·.base.isNone)).map (·.candidate) ∧
      ∀ candidate ∈ (resolveAll affixes candidates).exhausted,
        isParted candidate.type.fullName = false := by
  have houtcomes : outcomes affixes Taken.none candidates = closedOutcomes [] candidates :=
    outcomes_eq_closedOutcomes (occupies_none affixes texts) (by simpa using hnames) htexts
  have hexhausted : (resolveAll affixes candidates).exhausted =
      ((closedOutcomes [] candidates).filter (·.base.isNone)).map (·.candidate) := by
    rw [resolveAll, exhausted_resolveFrom, houtcomes]
  refine ⟨?_, hexhausted, ?_⟩
  · rw [resolveAll, map_named_resolveFrom, houtcomes]
  · intro candidate hcandidate
    rw [hexhausted] at hcandidate
    simp only [closedOutcomes, List.mem_map, List.mem_filter, List.mem_mapIdx] at hcandidate
    obtain ⟨_, ⟨⟨k, hk, rfl⟩, hnone⟩, rfl⟩ := hcandidate
    rw [baseAmong?] at hnone
    split at hnone
    next => contradiction
    next =>
      split at hnone
      next => contradiction
      next hparted => simpa using hparted

/-- Types of two simple names, some of which stand in a namespace or in another type. -/
def arsenal : List Candidate :=
  ["A.Sword", "Sword", "Shield", "B.Sword", "Shield+Sword", "C.Shield"].map fun name =>
    ⟨⟨name, none, false, false, true, []⟩, ⟨⟨"Items/", "!"⟩, none⟩⟩

theorem resolveAll_arsenal :
    (arsenal.map (·.type.fullName)).Nodup ∧
      (∀ candidate ∈ arsenal, candidate.tag.affixes = ⟨"Items/", "!"⟩) ∧
      (closedOutcomes [] arsenal).map (·.base) =
        [some "Sword", none, some "Shield", some "B.Sword", some "Shield+Sword",
          some "C.Shield"] ∧
      (resolveAll Affixes.none arsenal).exhausted =
        ((closedOutcomes [] arsenal).filter (·.base.isNone)).map (·.candidate) ∧
      ∀ candidate ∈ (resolveAll Affixes.none arsenal).exhausted,
        isParted candidate.type.fullName = false := by
  have hnames : (arsenal.map (·.type.fullName)).Nodup := by decide
  have htexts : ∀ candidate ∈ arsenal, candidate.tag.affixes = ⟨"Items/", "!"⟩ := by decide
  exact ⟨hnames, htexts, by decide, (resolveAll_of_affixes_eq Affixes.none _ hnames htexts).2⟩

end Naming

end AssetMenu
