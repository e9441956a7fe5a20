import AssetMenu.Plan
import AssetMenu.Proofs.Manifest.Acceptance
import AssetMenu.Proofs.Naming.Outcomes

/-!
# Every tagged type is accounted for

A plan puts each tagged type of a manifest on one of three lists: it gets an
entry, it is rejected, or it gets no name.  Which of them, is decided by what is
declared of the type and by where its bases lead.  The ancestors that the rules
look at are found by a walk with a bound, so they are first shown to be all the
types that an accepted manifest leads to.
-/

namespace AssetMenu

namespace Manifest

variable {manifest : Manifest} {name : String} {declaration : TypeDeclaration}

/-! ## The candidates of a manifest -/

/-- The candidate that a tagged type is. -/
def candidateOf (manifest : Manifest) (name : String) (declaration : TypeDeclaration)
    (tag : MenuTag) : Candidate :=
  { type :=
      { fullName := name
        assembly := declaration.assembly
        isAbstract := declaration.isAbstract
        isGenericDefinition := declaration.isGeneric
        isPublic := declaration.isPublic
        ancestors := manifest.ancestors name }
    tag }

/-- Every tagged type is a candidate, since its declaration is found again. -/
theorem candidates_eq (hnames : (manifest.types.map Prod.fst).Nodup) :
    manifest.candidates = manifest.types.filterMap fun entry =>
      entry.2.menu.map (manifest.candidateOf entry.1 entry.2) := by
  rw [candidates, tagged, List.filterMap_filterMap]
  refine List.filterMap_congr fun entry hentry => ?_
  cases htag : entry.2.menu with
  | none => rfl
  | some tag =>
      have hdeclared := (declaration?_eq_some_iff hnames).mpr hentry
      simp [typeInfo?, hdeclared, candidateOf]

theorem mem_candidates_iff (hnames : (manifest.types.map Prod.fst).Nodup)
    {candidate : Candidate} :
    candidate ∈ manifest.candidates ↔
      ∃ name declaration tag, (name, declaration) ∈ manifest.types ∧
        declaration.menu = some tag ∧ manifest.candidateOf name declaration tag = candidate := by
  simp [candidates_eq hnames]

theorem map_fullName_candidates (hnames : (manifest.types.map Prod.fst).Nodup) :
    manifest.candidates.map (fun candidate => (candidate.type.fullName, candidate.tag)) =
      manifest.tagged := by
  rw [candidates_eq hnames, tagged, List.map_filterMap]
  refine List.filterMap_congr fun entry _ => ?_
  cases entry.2.menu <;> rfl

theorem map_fst_tagged :
    manifest.tagged.map Prod.fst = (manifest.types.filter (·.2.isTagged)).map Prod.fst := by
  rw [tagged, List.map_filterMap, ← List.filterMap_eq_filter, List.map_filterMap]
  refine List.filterMap_congr fun entry _ => ?_
  cases hmenu : entry.2.menu <;> simp [TypeDeclaration.isTagged, Option.guard, hmenu]

theorem count_tagged (hnames : (manifest.types.map Prod.fst).Nodup)
    (hmem : (name, declaration) ∈ manifest.types) :
    (manifest.tagged.map Prod.fst).count name = if declaration.isTagged then 1 else 0 := by
  have hnodup : (manifest.tagged.map Prod.fst).Nodup := by
    rw [map_fst_tagged]
    exact hnames.sublist (List.filter_sublist.map _)
  have htagged : name ∈ manifest.tagged.map Prod.fst ↔ declaration.isTagged = true := by
    simp only [map_fst_tagged, List.mem_map, List.mem_filter, Prod.exists, exists_and_right,
      exists_eq_right]
    constructor
    · rintro ⟨other, hother, htag⟩
      rwa [eq_of_mem_types hnames hmem hother]
    · intro htag
      exact ⟨declaration, hmem, htag⟩
  rw [hnodup.count]
  simp only [htagged]

/-! ## Which types get entries -/

/-- An instance of the type is an asset that the menu may create. -/
structure Eligible (manifest : Manifest) (name : String) (declaration : TypeDeclaration) :
    Prop where
  concrete : declaration.isAbstract = false
  closed : declaration.isGeneric = false
  isPublic : declaration.isPublic = true
  derived : Relation.TransGen manifest.Extends name manifest.generator.baseType

/-- The first rule that a type breaks, where a type that follows all rules breaks
none. -/
inductive FirstBroken (manifest : Manifest) (name : String) (declaration : TypeDeclaration) :
    Rejection → Prop
  | abstractType : declaration.isAbstract = true →
      FirstBroken manifest name declaration .abstractType
  | genericDefinition : declaration.isAbstract = false → declaration.isGeneric = true →
      FirstBroken manifest name declaration .genericDefinition
  | notDerived : declaration.isAbstract = false → declaration.isGeneric = false →
      ¬ Relation.TransGen manifest.Extends name manifest.generator.baseType →
        FirstBroken manifest name declaration (.notDerived manifest.generator.baseType)
  | notPublic : declaration.isAbstract = false → declaration.isGeneric = false →
      Relation.TransGen manifest.Extends name manifest.generator.baseType →
        declaration.isPublic = false → FirstBroken manifest name declaration .notPublic

theorem FirstBroken.not_eligible {rejection : Rejection}
    (hbroken : manifest.FirstBroken name declaration rejection) :
    ¬ manifest.Eligible name declaration := by
  rintro ⟨hconcrete, hclosed, hpublic, hderived⟩
  cases hbroken with
  | abstractType habstract => simp [hconcrete] at habstract
  | genericDefinition _ hgeneric => simp [hclosed] at hgeneric
  | notDerived _ _ hunrelated => exact hunrelated hderived
  | notPublic _ _ _ hprivate => simp [hpublic] at hprivate

/-- In an accepted manifest no type leads to itself, so that the ancestors of a
type are all the names that it leads to. -/
theorem mem_ancestors_iff_extends (hnames : (manifest.types.map Prod.fst).Nodup)
    (hacyclic : manifest.Acyclic) {base : String} :
    base ∈ manifest.ancestors name ↔ Relation.TransGen manifest.Extends name base := by
  rw [mem_ancestors_iff, ← extends_eq_hasBase hnames, and_iff_left_iff_imp]
  rintro hreaches rfl
  exact hacyclic base hreaches

theorem eligible_or_firstBroken (hnames : (manifest.types.map Prod.fst).Nodup)
    (hacyclic : manifest.Acyclic) (name : String) (declaration : TypeDeclaration)
    (tag : MenuTag) :
    let reason := (manifest.candidateOf name declaration tag).type.rejection?
      manifest.generator.baseType
    reason = none ∧ manifest.Eligible name declaration ∨
      ∃ rejection, reason = some rejection ∧
        manifest.FirstBroken name declaration rejection := by
  have hderives : (manifest.ancestors name).contains manifest.generator.baseType = true ↔ _ :=
    List.contains_iff_mem.trans (mem_ancestors_iff_extends hnames hacyclic)
  intro reason
  have hreason : reason =
      if declaration.isAbstract then some .abstractType
      else if declaration.isGeneric then some .genericDefinition
      else if !(manifest.ancestors name).contains manifest.generator.baseType then
        some (.notDerived manifest.generator.baseType)
      else if !declaration.isPublic then some .notPublic
      else none := rfl
  rw [hreason]
  cases habstract : declaration.isAbstract with
  | true => exact Or.inr ⟨_, rfl, .abstractType habstract⟩
  | false =>
    cases hgeneric : declaration.isGeneric with
    | true => exact Or.inr ⟨_, rfl, .genericDefinition habstract hgeneric⟩
    | false =>
      by_cases hderived : Relation.TransGen manifest.Extends name manifest.generator.baseType
      · rw [hderives.mpr hderived]
        cases hpublic : declaration.isPublic with
        | true => exact Or.inl ⟨rfl, habstract, hgeneric, hpublic, hderived⟩
        | false => exact Or.inr ⟨_, rfl, .notPublic habstract hgeneric hderived hpublic⟩
      · rw [Bool.eq_false_iff.mpr (mt hderives.mp hderived)]
        exact Or.inr ⟨_, rfl, .notDerived habstract hgeneric hderived⟩

theorem rejection?_eq_none_iff (hnames : (manifest.types.map Prod.fst).Nodup)
    (hacyclic : manifest.Acyclic) {tag : MenuTag} :
    (manifest.candidateOf name declaration tag).type.rejection? manifest.generator.baseType =
        none ↔ manifest.Eligible name declaration := by
  rcases eligible_or_firstBroken hnames hacyclic name declaration tag with
    ⟨hnone, heligible⟩ | ⟨rejection, hsome, hbroken⟩
  · simp [hnone, heligible]
  · simp [hsome, hbroken.not_eligible]

open scoped Classical in
/-- The candidates that follow all rules. -/
noncomputable def eligibleCandidates (manifest : Manifest) : List Candidate :=
  manifest.types.filterMap fun entry =>
    if manifest.Eligible entry.1 entry.2 then
      entry.2.menu.map (manifest.candidateOf entry.1 entry.2)
    else none

theorem filter_isEligible_candidates (hnames : (manifest.types.map Prod.fst).Nodup)
    (hacyclic : manifest.Acyclic) :
    manifest.candidates.filter (·.isEligible manifest.generator.baseType) =
      manifest.eligibleCandidates := by
  rw [candidates_eq hnames, List.filter_filterMap, eligibleCandidates]
  refine List.filterMap_congr fun entry _ => ?_
  cases entry.2.menu with
  | none => simp
  | some tag =>
      have hnone : (manifest.candidateOf entry.1 entry.2 tag).type.rejection?
          manifest.generator.baseType = none ↔ _ := rejection?_eq_none_iff hnames hacyclic
      by_cases heligible : manifest.Eligible entry.1 entry.2
      · rw [if_pos heligible]
        simp [Candidate.isEligible, hnone.mpr heligible]
      · rw [if_neg heligible]
        simp [Candidate.isEligible, mt hnone.mp heligible]

theorem mem_map_fullName_eligibleCandidates :
    name ∈ manifest.eligibleCandidates.map (·.type.fullName) ↔
      ∃ declaration, (name, declaration) ∈ manifest.types ∧ declaration.isTagged ∧
        manifest.Eligible name declaration := by
  simp only [eligibleCandidates, List.mem_map, List.mem_filterMap,
    Option.ite_none_right_eq_some, Option.map_eq_some_iff]
  constructor
  · rintro ⟨_, ⟨entry, hmem, heligible, tag, htag, rfl⟩, rfl⟩
    exact ⟨entry.2, hmem, by simp [TypeDeclaration.isTagged, htag], heligible⟩
  · rintro ⟨declaration, hmem, htagged, heligible⟩
    obtain ⟨tag, htag⟩ := Option.isSome_iff_exists.mp htagged
    exact ⟨_, ⟨(name, declaration), hmem, heligible, tag, htag, rfl⟩, rfl⟩

end Manifest

namespace Plan

/-! ## The three lists -/

/-- Full names of the types that got entries. -/
def entryNames (plan : Plan) : List String :=
  plan.entries.map (·.candidate.type.fullName)

/-- Full names of the types that are not eligible. -/
def rejectedNames (plan : Plan) : List String :=
  plan.rejected.map (·.candidate.type.fullName)

/-- Full names of the types that got no name. -/
def exhaustedNames (plan : Plan) : List String :=
  plan.exhausted.map (·.type.fullName)

theorem map_candidate_rejections (base : String) (candidates : List Candidate) :
    (rejections base candidates).map (·.candidate) =
      candidates.filter fun candidate => !candidate.isEligible base := by
  rw [rejections, List.map_filterMap, ← List.filterMap_eq_filter]
  refine List.filterMap_congr fun candidate _ => ?_
  cases hreason : candidate.type.rejection? base <;>
    simp [Option.guard, Candidate.isEligible, hreason]

/-- Every candidate is on one of the three lists, and on no other as well. -/
theorem make_perm (config : Config) (candidates : List Candidate) :
    let plan := make config candidates
    (plan.entries.map (·.candidate) ++ plan.exhausted ++
      plan.rejected.map (·.candidate)).Perm candidates := by
  intro plan
  have hnamed : (plan.entries.map (·.candidate) ++ plan.exhausted).Perm
      (candidates.filter (·.isEligible config.baseType)) :=
    Naming.resolved_append_exhausted_perm _
  have hrejected : plan.rejected.map (·.candidate) =
      candidates.filter fun candidate => !candidate.isEligible config.baseType :=
    map_candidate_rejections config.baseType candidates
  rw [hrejected]
  exact (hnamed.append_right _).trans (List.filter_append_perm _ _)

theorem make_names_perm (config : Config) (candidates : List Candidate) :
    let plan := make config candidates
    (plan.entryNames ++ plan.rejectedNames ++ plan.exhaustedNames).Perm
      (candidates.map (·.type.fullName)) := by
  intro plan
  have hperm := (make_perm config candidates).map (·.type.fullName)
  simp only [List.map_append, List.map_map] at hperm
  refine List.Perm.trans ?_ hperm
  rw [List.append_assoc, List.append_assoc]
  exact List.perm_append_comm.append_left _

theorem entries_sublist (config : Config) (candidates : List Candidate) :
    ((make config candidates).entries.map (·.candidate)).Sublist candidates :=
  (Naming.resolved_sublist _).trans List.filter_sublist

theorem rejected_sublist (config : Config) (candidates : List Candidate) :
    ((make config candidates).rejected.map (·.candidate)).Sublist candidates := by
  rw [make, map_candidate_rejections]
  exact List.filter_sublist

theorem exhausted_sublist (config : Config) (candidates : List Candidate) :
    (make config candidates).exhausted.Sublist candidates :=
  (Naming.exhausted_sublist _).trans List.filter_sublist

/-- The names of chosen candidates stand in the order of the declarations. -/
theorem names_sublist {manifest : Manifest} (hnames : (manifest.types.map Prod.fst).Nodup)
    {chosen : List Candidate} (hchosen : chosen.Sublist manifest.candidates) :
    (chosen.map (·.type.fullName)).Sublist (manifest.types.map Prod.fst) := by
  have hall : manifest.candidates.map (·.type.fullName) = manifest.tagged.map Prod.fst := by
    rw [← manifest.map_fullName_candidates hnames, List.map_map]
    rfl
  refine (hchosen.map _).trans ?_
  rw [hall, Manifest.map_fst_tagged]
  exact List.filter_sublist.map _

/-- A plan that treats the tagged types of a manifest as their declarations say. -/
structure AccountsFor (manifest : Manifest) (plan : Plan) : Prop where
  /-- A tagged type is on one list and once, and other types are on none. -/
  each_once : ∀ name declaration, (name, declaration) ∈ manifest.types →
    (plan.entryNames ++ plan.rejectedNames ++ plan.exhaustedNames).count name =
      if declaration.isTagged then 1 else 0
  entries_in_order : plan.entryNames.Sublist (manifest.types.map Prod.fst)
  rejected_in_order : plan.rejectedNames.Sublist (manifest.types.map Prod.fst)
  exhausted_in_order : plan.exhaustedNames.Sublist (manifest.types.map Prod.fst)
  named_iff_eligible : ∀ name declaration, (name, declaration) ∈ manifest.types →
    declaration.isTagged →
      (name ∈ plan.entryNames ∨ name ∈ plan.exhaustedNames ↔
        manifest.Eligible name declaration)
  rejected_for_first : ∀ name declaration, (name, declaration) ∈ manifest.types →
    declaration.isTagged → ¬ manifest.Eligible name declaration →
      ∃ rejected ∈ plan.rejected, rejected.candidate.type.fullName = name ∧
        manifest.FirstBroken name declaration rejected.rejection
  /-- Names are given as if there were no other types than the eligible ones. -/
  named_alone :
    Naming.resolveAll manifest.generator.affixes manifest.eligibleCandidates =
      ⟨plan.entries, plan.exhausted⟩
  baseType_unnamed : manifest.generator.baseType ∉ plan.entryNames ∧
    manifest.generator.baseType ∉ plan.exhaustedNames
  findings_eq :
    plan.findings.map (fun finding => (finding.severity, finding.location)) =
      plan.rejectedNames.map (fun name => (.info, some name)) ++
        plan.exhaustedNames.map fun name => (.warning, some name)

/-- The eligible types are named, or at least would be. -/
theorem mem_named_iff {manifest : Manifest} {plan : Plan}
    (hnamed : Naming.resolveAll manifest.generator.affixes manifest.eligibleCandidates =
      ⟨plan.entries, plan.exhausted⟩) {name : String} :
    name ∈ plan.entryNames ∨ name ∈ plan.exhaustedNames ↔
      ∃ declaration, (name, declaration) ∈ manifest.types ∧ declaration.isTagged ∧
        manifest.Eligible name declaration := by
  have hperm : ((Naming.resolveAll manifest.generator.affixes
      manifest.eligibleCandidates).resolved.map (·.candidate) ++ _).Perm
        manifest.eligibleCandidates := Naming.resolved_append_exhausted_perm _
  rw [← Naming.resolveAll, hnamed] at hperm
  rw [← Manifest.mem_map_fullName_eligibleCandidates, ← (hperm.map _).mem_iff]
  simp only [entryNames, exhaustedNames, List.map_append, List.map_map, List.mem_append]
  rfl

theorem exists_rejected {manifest : Manifest} (hnames : (manifest.types.map Prod.fst).Nodup)
    (hacyclic : manifest.Acyclic) {name : String} {declaration : TypeDeclaration}
    (hmem : (name, declaration) ∈ manifest.types) (htagged : declaration.isTagged)
    (hineligible : ¬ manifest.Eligible name declaration) :
    ∃ rejected ∈ rejections manifest.generator.baseType manifest.candidates,
      rejected.candidate.type.fullName = name ∧
        manifest.FirstBroken name declaration rejected.rejection := by
  obtain ⟨tag, htag⟩ := Option.isSome_iff_exists.mp htagged
  have hcandidate : manifest.candidateOf name declaration tag ∈ manifest.candidates :=
    (Manifest.mem_candidates_iff hnames).mpr ⟨name, declaration, tag, hmem, htag, rfl⟩
  rcases Manifest.eligible_or_firstBroken hnames hacyclic name declaration tag with
    ⟨-, heligible⟩ | ⟨rejection, hreason, hbroken⟩
  · exact absurd heligible hineligible
  · refine ⟨⟨manifest.candidateOf name declaration tag, rejection⟩, ?_, rfl, hbroken⟩
    refine List.mem_filterMap.mpr ⟨_, hcandidate, ?_⟩
    rw [hreason]
    rfl

/-- A plan for an accepted manifest loses and duplicates no tagged type. -/
theorem make_accounts_for_tagged {source file : String} {manifest : Manifest}
    (hread : Manifest.ofSource source file = .ok manifest) (output : Path) :
    AccountsFor manifest
      (make { Config.ofSettings manifest.generator with output } manifest.candidates) := by
  let config : Config := { Config.ofSettings manifest.generator with output }
  have hnames := Manifest.nodup_names_of_ofSource hread
  have hacyclic := (Manifest.wellFormed_of_ofSource hread).acyclic
  have heligible := Manifest.filter_isEligible_candidates hnames hacyclic
  have hnamed : Naming.resolveAll manifest.generator.affixes manifest.eligibleCandidates =
      ⟨_, _⟩ := congrArg (Naming.resolveAll manifest.generator.affixes) heligible.symm
  constructor
  case each_once =>
    intro name declaration hmem
    have hperm := make_names_perm config manifest.candidates
    rw [hperm.count_eq, ← Manifest.count_tagged hnames hmem,
      ← manifest.map_fullName_candidates hnames, List.map_map]
    rfl
  case entries_in_order =>
    have hsublist := names_sublist hnames (entries_sublist config manifest.candidates)
    rwa [List.map_map] at hsublist
  case rejected_in_order =>
    have hsublist := names_sublist hnames (rejected_sublist config manifest.candidates)
    rwa [List.map_map] at hsublist
  case exhausted_in_order =>
    exact names_sublist hnames (exhausted_sublist config manifest.candidates)
  case named_iff_eligible =>
    intro name declaration hmem htagged
    rw [mem_named_iff hnamed]
    constructor
    · rintro ⟨other, hother, -, heligible⟩
      rwa [Manifest.eq_of_mem_types hnames hmem hother]
    · intro heligible
      exact ⟨declaration, hmem, htagged, heligible⟩
  case rejected_for_first =>
    intro name declaration hmem htagged hineligible
    exact exists_rejected hnames hacyclic hmem htagged hineligible
  case named_alone =>
    exact hnamed
  case baseType_unnamed =>
    rw [← not_or, mem_named_iff hnamed]
    rintro ⟨declaration, -, -, heligible⟩
    exact hacyclic _ heligible.derived
  case findings_eq =>
    simp only [make, rejectedNames, exhaustedNames, List.map_append, List.map_map]
    rfl

/-- Two types that compete for a name, and one that leads nowhere. -/
def competingSource : String :=
  "[generator]\noutput = \"M.cs\"\nbase_type = \"S\"\n[types.B]\nextends = \"S\"\n" ++
    "[types.\"N.A\"]\nextends = \"B\"\nmenu = \x7b\x7d\n" ++
    "[types.A]\nextends = \"S\"\nmenu = \x7b\x7d\n[types.C]\nmenu = \x7b\x7d\n"

/-- The manifest in `competingSource`. -/
def competingManifest : Manifest :=
  let declaration (base : Option BaseReference) (menu : Option MenuTag) : TypeDeclaration :=
    ⟨none, base, false, false, true, menu⟩
  let tag : MenuTag := ⟨Affixes.none, none⟩
  ⟨⟨⟨"M.cs"⟩, 0, Affixes.none, "S", true⟩,
    [("B", declaration (some ⟨"S", ⟨64, 67⟩⟩) none),
      ("N.A", declaration (some ⟨"B", ⟨92, 95⟩⟩) (some tag)),
      ("A", declaration (some ⟨"S", ⟨126, 129⟩⟩) (some tag)),
      ("C", declaration none (some tag))]⟩

/-- The plan for `competingManifest`. -/
def competingPlan : Plan :=
  make { Config.ofSettings competingManifest.generator with output := ⟨"M.cs"⟩ }
    competingManifest.candidates

theorem make_competingManifest :
    Manifest.ofSource competingSource Manifest.fileName = .ok competingManifest ∧
      competingPlan.entryNames = ["N.A"] ∧ competingPlan.rejectedNames = ["C"] ∧
      competingPlan.exhaustedNames = ["A"] ∧ AccountsFor competingManifest competingPlan := by
  have hread : Manifest.ofSource competingSource Manifest.fileName = .ok competingManifest :=
    eq_ok_of_toOption (by decide +kernel)
  exact ⟨hread, by decide, by decide, by decide, make_accounts_for_tagged hread ⟨"M.cs"⟩⟩

end Plan

end AssetMenu
