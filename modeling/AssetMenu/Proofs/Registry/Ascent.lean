import AssetMenu.Proofs.Registry.Lineage

/-!
# The walk from base to base

A walk keeps the names that it has met and looks at one more base with every step.  Nothing counts
its steps: it goes on until there is no base, or the base is among the names it has met.  It comes
to an end in any registry, since a step meets a declared name for the first time or comes to a name
without a base.  The ancestors of a type are the names that the walk has met at its end, behind the
type itself, and they are as much of the sequence of bases as there is without a repetition.
-/

namespace AssetMenu.Manifest

variable {manifest : Manifest} {name : String}

/-- A walk that is under way: the names that it has met, in their order, and the base to look at
next. -/
structure Ascent where
  met : List String
  next : Option String

namespace Ascent

variable {walk later last : Ascent}

/-- A walk that begins at a name. -/
def start (manifest : Manifest) (name : String) : Ascent :=
  ⟨[name], manifest.base? name⟩

/-- The walk after one more step, unless it is at its end. -/
def step? (manifest : Manifest) (walk : Ascent) : Option Ascent :=
  match walk.next with
  | none => none
  | some base =>
      if base ∈ walk.met then none else some ⟨walk.met ++ [base], manifest.base? base⟩

theorem step?_eq_some_iff :
    walk.step? manifest = some later ↔
      ∃ base, walk.next = some base ∧ base ∉ walk.met ∧
        later = ⟨walk.met ++ [base], manifest.base? base⟩ := by
  rw [step?]
  split
  next hnone => simp [hnone]
  next base hbase => simp [hbase, eq_comm]

theorem step?_eq_none_iff :
    walk.step? manifest = none ↔ ∀ base, walk.next = some base → base ∈ walk.met := by
  rw [step?]
  split
  next hnone => simp [hnone]
  next base hbase => simp [hbase]

/-! ## No walk goes on for ever -/

/-- The declared names that are not among the names met. -/
def unmet (manifest : Manifest) (met : List String) : List String :=
  (manifest.types.map Prod.fst).filter (· ∉ met)

theorem unmet_concat (met : List String) (base : String) :
    unmet manifest (met ++ [base]) = (unmet manifest met).filter (· ≠ base) := by
  rw [unmet, unmet, List.filter_filter]
  apply List.filter_congr
  intro declared _
  simp [not_or, and_comm]

theorem length_unmet_concat_le (met : List String) (base : String) :
    (unmet manifest (met ++ [base])).length ≤ (unmet manifest met).length := by
  rw [unmet_concat]
  exact List.length_filter_le _ _

theorem length_unmet_concat_lt {met : List String} {base : String}
    (hdeclared : base ∈ manifest.types.map Prod.fst) (hnew : base ∉ met) :
    (unmet manifest (met ++ [base])).length < (unmet manifest met).length := by
  have hmem : base ∈ unmet manifest met := List.mem_filter.mpr ⟨hdeclared, by simpa using hnew⟩
  rw [unmet_concat]
  apply List.length_filter_lt_length_iff_exists.mpr
  exact ⟨base, hmem, by simp⟩

/-- A bound for the steps that are left.  Every declared name is met once at most, and a step to
another name leaves no base to look at. -/
def room (manifest : Manifest) (walk : Ascent) : Nat :=
  (unmet manifest walk.met).length + walk.next.toList.length

theorem room_lt_of_step? (hstep : walk.step? manifest = some later) :
    later.room manifest < walk.room manifest := by
  obtain ⟨base, hnext, hnew, rfl⟩ := step?_eq_some_iff.mp hstep
  rw [room, room, hnext]
  -- A base without a base is the last one, and any other is declared and met for the first time.
  cases hbase : manifest.base? base with
  | none =>
      have hunmet : (unmet manifest (walk.met ++ [base])).length ≤ _ :=
        length_unmet_concat_le walk.met base
      simp only [Option.toList_none, Option.toList_some, List.length_nil, List.length_singleton]
      omega
  | some following =>
      have hunmet := length_unmet_concat_lt (mem_names_of_hasBase hbase) hnew
      simp only [Option.toList_some, List.length_singleton]
      omega

/-- There is no walk without an end, wherever it begins and whatever it has met. -/
theorem wellFounded_step (manifest : Manifest) :
    WellFounded fun later earlier : Ascent => earlier.step? manifest = some later :=
  Subrelation.wf room_lt_of_step? (measure (room manifest)).wf

/-! ## Where a walk ends -/

/-- Step by step the walk comes to `last`, which is its end. -/
structure EndsAt (manifest : Manifest) (walk last : Ascent) : Prop where
  steps : Relation.ReflTransGen (fun earlier later : Ascent => earlier.step? manifest = some later)
    walk last
  final : last.step? manifest = none

namespace EndsAt

theorem refl (hfinal : walk.step? manifest = none) : EndsAt manifest walk walk :=
  ⟨.refl, hfinal⟩

theorem head (hstep : walk.step? manifest = some later) (hends : EndsAt manifest later last) :
    EndsAt manifest walk last :=
  ⟨.head hstep hends.steps, hends.final⟩

theorem unique {other : Ascent} (hlast : EndsAt manifest walk last)
    (hother : EndsAt manifest walk other) : last = other := by
  obtain ⟨hsteps, hfinal⟩ := hlast
  induction hsteps using Relation.ReflTransGen.head_induction_on with
  | refl =>
      rcases hother.steps.cases_head with hsame | ⟨later, hstep, -⟩
      · exact hsame
      · rw [hfinal] at hstep
        contradiction
  | head hstep _ ih =>
      rcases hother.steps.cases_head with rfl | ⟨later, hstep', hsteps⟩
      · rw [hother.final] at hstep
        contradiction
      · obtain rfl := Option.some.inj (hstep.symm.trans hstep')
        exact ih ⟨hsteps, hother.final⟩

end EndsAt

/-- Each base on the way up is one more step of the walk. -/
theorem exists_endsAt_of_climb {seen bases met : List String}
    (hclimb : Climb manifest seen name bases) (hmet : ∀ earlier, earlier ∈ met ↔ earlier ∈ seen) :
    ∃ last, EndsAt manifest ⟨met, manifest.base? name⟩ last ∧ last.met = met ++ bases := by
  -- The walk keeps the newest name last and the climb keeps it first, so only the members agree.
  induction hclimb generalizing met with
  | top hnone =>
      refine ⟨_, .refl (step?_eq_none_iff.mpr ?_), (List.append_nil met).symm⟩
      simp [hnone]
  | back hbase hseen =>
      refine ⟨_, .refl (step?_eq_none_iff.mpr ?_), (List.append_nil met).symm⟩
      simpa [hbase, hmet] using hseen
  | @up seen _ base bases hbase hfresh _ ih =>
      have hlonger : ∀ earlier, earlier ∈ met ++ [base] ↔ earlier ∈ base :: seen := by
        intro earlier
        rw [List.mem_append, List.mem_singleton, List.mem_cons, hmet, or_comm]
      obtain ⟨last, hends, hlast⟩ := ih hlonger
      refine ⟨last, .head (step?_eq_some_iff.mpr ⟨base, hbase, ?_, rfl⟩) hends, ?_⟩
      · rwa [hmet]
      · rw [hlast, List.append_assoc, List.singleton_append]

theorem exists_endsAt_start (manifest : Manifest) (name : String) :
    ∃ last, EndsAt manifest (start manifest name) last ∧
      last.met = name :: manifest.ancestors name :=
  exists_endsAt_of_climb (climb_ancestors manifest name) fun _ => Iff.rfl

end Ascent

/-! ## The sequence of bases -/

/-- The base that is reached from a name behind so many others: its own base, the base of that, and
so on. -/
def baseBehind? (manifest : Manifest) : Nat → String → Option String
  | 0, name => manifest.base? name
  | others + 1, name => (manifest.base? name).bind (manifest.baseBehind? others)

/-- The sequence of bases on the way up from a name begins with `bases`. -/
def BeginsBases (manifest : Manifest) (name : String) (bases : List String) : Prop :=
  ∀ (others : Nat) (hothers : others < bases.length),
    manifest.baseBehind? others name = some bases[others]

theorem beginsBases_nil : manifest.BeginsBases name [] := by
  intro others hothers
  contradiction

theorem beginsBases_cons_iff {base : String} {bases : List String} :
    manifest.BeginsBases name (base :: bases) ↔
      manifest.base? name = some base ∧ manifest.BeginsBases base bases := by
  constructor
  · intro hbegins
    have hbase : manifest.base? name = some base := hbegins 0 (Nat.zero_lt_succ _)
    refine ⟨hbase, fun others hothers => ?_⟩
    have hlater := hbegins (others + 1) (Nat.succ_lt_succ hothers)
    rwa [baseBehind?, hbase, Option.bind_some] at hlater
  · rintro ⟨hbase, hrest⟩ others hothers
    cases others with
    | zero => exact hbase
    | succ others =>
        rw [baseBehind?, hbase, Option.bind_some]
        exact hrest others (Nat.lt_of_succ_lt_succ hothers)

/-- A beginning of the sequence of bases without a repetition, and without the name itself. -/
structure FreshBases (manifest : Manifest) (name : String) (bases : List String) : Prop where
  begins : manifest.BeginsBases name bases
  nodup : bases.Nodup
  not_mem : name ∉ bases

theorem Climb.beginsBases {seen bases : List String} (hclimb : Climb manifest seen name bases) :
    manifest.BeginsBases name bases := by
  induction hclimb with
  | top => exact beginsBases_nil
  | back => exact beginsBases_nil
  | up hbase _ _ ih => exact beginsBases_cons_iff.mpr ⟨hbase, ih⟩

/-- A way up that avoids what was met before is part of the way that is taken. -/
theorem Climb.isPrefix {seen bases others : List String}
    (hclimb : Climb manifest seen name bases) (hbegins : manifest.BeginsBases name others)
    (hnodup : others.Nodup) (hfresh : ∀ base ∈ others, base ∉ seen) : others <+: bases := by
  induction hclimb generalizing others with
  | top hnone =>
      cases others with
      | nil => exact List.nil_prefix
      | cons base others =>
          have hbase := (beginsBases_cons_iff.mp hbegins).1
          rw [hnone] at hbase
          contradiction
  | back hback hseen =>
      cases others with
      | nil => exact List.nil_prefix
      | cons base others =>
          have hbase := (beginsBases_cons_iff.mp hbegins).1
          obtain rfl := Option.some.inj (hback.symm.trans hbase)
          exact absurd hseen (hfresh _ List.mem_cons_self)
  | up hup _ _ ih =>
      cases others with
      | nil => exact List.nil_prefix
      | cons base others =>
          obtain ⟨hbase, hrest⟩ := beginsBases_cons_iff.mp hbegins
          obtain rfl := Option.some.inj (hup.symm.trans hbase)
          obtain ⟨hnew, hnodup⟩ := List.nodup_cons.mp hnodup
          refine List.cons_prefix_cons.mpr ⟨rfl, ih hrest hnodup fun later hlater => ?_⟩
          rw [List.mem_cons, not_or]
          exact ⟨fun hsame => hnew (hsame ▸ hlater), hfresh later (List.mem_cons_of_mem _ hlater)⟩

theorem freshBases_ancestors (manifest : Manifest) (name : String) :
    manifest.FreshBases name (manifest.ancestors name) where
  begins := (climb_ancestors manifest name).beginsBases
  nodup := (climb_ancestors manifest name).nodup
  not_mem := fun hself =>
    (climb_ancestors manifest name).not_mem_seen name hself List.mem_cons_self

theorem FreshBases.isPrefix_ancestors {bases : List String}
    (hbases : manifest.FreshBases name bases) : bases <+: manifest.ancestors name := by
  apply (climb_ancestors manifest name).isPrefix hbases.begins hbases.nodup
  intro base hbase hself
  obtain rfl := List.mem_singleton.mp hself
  exact hbases.not_mem hbase

theorem ancestors_eq_nil (hname : name ∉ manifest.types.map Prod.fst) :
    manifest.ancestors name = [] := by
  cases hbases : manifest.ancestors name with
  | nil => rfl
  | cons base bases =>
      have hbegins := (freshBases_ancestors manifest name).begins
      rw [hbases, beginsBases_cons_iff] at hbegins
      exact absurd (mem_names_of_hasBase hbegins.1) hname

/-- In any registry a walk from base to base comes to an end.  The ancestors of a type are what the
walk has met behind the type, and they are the longest beginning of the sequence of its bases
without a repetition and without the type.  There are no more of them than declarations, and none
for a name that is not declared. -/
theorem ancestors_are_longest_beginning (manifest : Manifest) :
    (WellFounded fun later earlier : Ascent => earlier.step? manifest = some later) ∧
    ∀ name,
      (∃ last, Ascent.EndsAt manifest (Ascent.start manifest name) last) ∧
      (∀ last, Ascent.EndsAt manifest (Ascent.start manifest name) last →
        manifest.ancestors name = last.met.drop 1) ∧
      manifest.FreshBases name (manifest.ancestors name) ∧
      (∀ bases, manifest.FreshBases name bases → bases <+: manifest.ancestors name) ∧
      (manifest.ancestors name).length ≤ manifest.types.length ∧
      (name ∉ manifest.types.map Prod.fst → manifest.ancestors name = []) := by
  refine ⟨Ascent.wellFounded_step manifest, fun name => ?_⟩
  obtain ⟨last, hends, hlast⟩ := Ascent.exists_endsAt_start manifest name
  refine ⟨⟨last, hends⟩, fun other hother => ?_, freshBases_ancestors manifest name,
    fun bases => FreshBases.isPrefix_ancestors, length_basesWithin_le _ _ _, ancestors_eq_nil⟩
  obtain rfl := hends.unique hother
  rw [hlast, List.drop_one, List.tail_cons]

/-- A type that leads into a cycle of two others, one that is its own base, and one whose base is
not declared. -/
def knottedManifest : Manifest :=
  let declaration (base : String) : TypeDeclaration :=
    ⟨none, some ⟨base, ⟨0, 0⟩⟩, false, false, true, none⟩
  ⟨⟨⟨""⟩, 0, Affixes.none, defaultBaseType, true⟩,
    [("A", declaration "B"), ("B", declaration "C"), ("C", declaration "B"),
      ("D", declaration "D"), ("E", declaration "F")]⟩

theorem ancestors_knottedManifest :
    (∃ last, Ascent.EndsAt knottedManifest (Ascent.start knottedManifest "A") last ∧
      last.met = ["A", "B", "C"] ∧ knottedManifest.ancestors "A" = last.met.drop 1) ∧
    knottedManifest.FreshBases "A" ["B"] ∧ ["B"] <+: knottedManifest.ancestors "A" ∧
    knottedManifest.ancestors "D" = [] ∧ knottedManifest.ancestors "E" = ["F"] ∧
    "F" ∉ knottedManifest.types.map Prod.fst ∧ knottedManifest.ancestors "F" = [] := by
  have hbases := (ancestors_are_longest_beginning knottedManifest).2
  have hundeclared : "F" ∉ knottedManifest.types.map Prod.fst := by decide
  have hfresh : knottedManifest.FreshBases "A" ["B"] :=
    ⟨beginsBases_cons_iff.mpr ⟨by decide, beginsBases_nil⟩, by decide, by decide⟩
  obtain ⟨last, hends, hlast⟩ := Ascent.exists_endsAt_start knottedManifest "A"
  refine ⟨⟨last, hends, hlast.trans (by decide), (hbases "A").2.1 last hends⟩, hfresh,
    (hbases "A").2.2.2.1 _ hfresh, by decide, by decide, hundeclared, ?_⟩
  exact (hbases "F").2.2.2.2.2 hundeclared

end AssetMenu.Manifest
