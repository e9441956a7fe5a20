import AssetMenu.Proofs.Naming.Surroundings
import AssetMenu.Proofs.Report.Agreement

/-!
# What overriding leaves alone

Values that take the place of settings say where the file goes, which priority entries
have that name none, and which texts stand around the names.  A plan looks at the last of
these only, and there the texts decide nothing.  So whatever is overridden, a manifest file
has the same plan up to the texts around the names, and its reports list the same entries.
-/

namespace AssetMenu

/-- The same plan, with the texts around the names of its entries. -/
def Plan.within (affixes : Affixes) (plan : Plan) : Plan :=
  { plan with entries := plan.entries.map (Resolved.within affixes) }

theorem Plan.isEmpty_within (affixes : Affixes) (plan : Plan) :
    (plan.within affixes).isEmpty = plan.isEmpty :=
  List.isEmpty_map

/-- The texts around the names change nothing else in a plan. -/
theorem Plan.make_eq_within (config : Config) (candidates : List Candidate) :
    Plan.make config candidates =
      (Plan.make { config with affixes := Affixes.none } candidates).within config.affixes := by
  rw [Plan.make, Naming.resolveAll_eq_within]
  rfl

namespace GenerateReport

variable {file : ManifestFile} {overrides : Overrides} {isDryRun : Bool} {fs : FileSystem}
  {report : GenerateReport}

/-- The plan of a manifest file where nothing stands around the names. -/
def barePlan (file : ManifestFile) : Plan :=
  Plan.make { Config.ofFile file with affixes := Affixes.none } file.manifest.candidates

/-- The texts around all names, where some take the place of those in the settings. -/
def affixesOf (file : ManifestFile) (overrides : Overrides) : Affixes :=
  (overrides.apply (Config.ofFile file)).affixes

theorem plan_generation (file : ManifestFile) (overrides : Overrides) :
    (generation file overrides).plan = (barePlan file).within (affixesOf file overrides) :=
  Plan.make_eq_within (overrides.apply (Config.ofFile file)) file.manifest.candidates

/-- A report lists the entries of the plan, and there is nothing to generate if there are
none. -/
theorem lists_plan_of_make (hreport : (make file overrides isDryRun fs).1 = .ok report) :
    (report.entries = (generation file overrides).plan.entries.map fun named =>
        ⟨named.identifier, named.candidate.type.fullName⟩) ∧
      (report.result = .nothingToGenerate ↔ (generation file overrides).plan.isEmpty = true) := by
  cases isDryRun with
  | true =>
      obtain rfl := shown_eq_of_make hreport
      refine ⟨rfl, ?_⟩
      rw [ofPlan]
      split
      next hempty => exact iff_of_true rfl hempty
      next hentries => exact iff_of_false (by simp) hentries
  | false =>
      obtain ⟨result, hrun, rfl⟩ := exists_run_of_make (Prod.ext hreport rfl)
      cases Generation.run_eq_iff.mp hrun with
      | idle _ _ hempty => exact ⟨rfl, iff_of_true rfl hempty⟩
      | written outcome _ _ _ hentries _ =>
          refine ⟨rfl, iff_of_false ?_ (by simp [hentries])⟩
          cases outcome <;> simp [resultOf, ofPlan]

/-- Texts around all names change neither which candidates get names, nor which of the two forms
they are named after, nor their numbers.  So whatever is overridden in a run on a manifest file,
the plan is the same up to the texts around the names, and each report lists its entries. -/
theorem affixes_decide_nothing (affixes : Affixes) (candidates : List Candidate)
    (file : ManifestFile) (overrides : Overrides) :
    Naming.resolveAll affixes candidates =
        (Naming.resolveAll Affixes.none candidates).within affixes ∧
      (∀ named ∈ (Naming.resolveAll Affixes.none candidates).resolved,
        ∃ base ∈ Naming.forms named.candidate,
          named.identifier = Naming.compose Affixes.none named.candidate base ∧
            (named.within affixes).identifier =
              Naming.compose affixes named.candidate base) ∧
      (generation file overrides).plan = (barePlan file).within (affixesOf file overrides) ∧
      ∀ isDryRun fs report, (make file overrides isDryRun fs).1 = .ok report →
        (report.entries = (barePlan file).entries.map fun named =>
            ⟨(affixesOf file overrides).around named.identifier,
              named.candidate.type.fullName⟩) ∧
          (report.result = .nothingToGenerate ↔ (barePlan file).isEmpty = true) := by
  refine ⟨Naming.resolveAll_eq_within affixes candidates, ?form, plan_generation file overrides,
    ?report⟩
  case form =>
    intro named hnamed
    obtain ⟨base, hform, hidentifier⟩ := Naming.exists_form_of_mem_resolveFrom hnamed
    refine ⟨base, hform, hidentifier, ?_⟩
    rw [Resolved.within, hidentifier, Naming.compose_eq_around affixes]
  case report =>
    intro isDryRun fs report hreport
    have hlists := lists_plan_of_make hreport
    rw [plan_generation, Plan.isEmpty_within, Plan.within, List.map_map] at hlists
    exact hlists

/-- A manifest file with three types that compete for one name, the first of them by its tag. -/
def rivalsFile : ManifestFile :=
  let tagged (before : String) : TypeDeclaration :=
    ⟨none, some ⟨defaultBaseType, ⟨0, 0⟩⟩, false, false, true, some ⟨⟨before, ""⟩, none⟩⟩
  ⟨⟨Manifest.fileName⟩, "",
    ⟨⟨⟨"Menu.cs"⟩, 0, ⟨"Old ", ""⟩, defaultBaseType, true⟩,
      [("A.ord", tagged "Sw"), ("B.Sword", tagged ""), ("Sword", tagged "")]⟩⟩

/-- Other texts around the names. -/
def redressed : Overrides :=
  { Overrides.none with before := some "My ", after := some "!" }

theorem make_rivalsFile :
    ∃ report, (make rivalsFile redressed true ⟨[], []⟩).1 = .ok report ∧
      (barePlan rivalsFile).entries.map (·.identifier) = ["Sword", "B.Sword"] ∧
      (barePlan rivalsFile).exhausted.map (·.type.fullName) = ["Sword"] ∧
      (report.entries = (barePlan rivalsFile).entries.map fun named =>
          ⟨(affixesOf rivalsFile redressed).around named.identifier,
            named.candidate.type.fullName⟩) ∧
      report.entries = [⟨"My Sword!", "A.ord"⟩, ⟨"My B.Sword!", "B.Sword"⟩] := by
  have hok : (make rivalsFile redressed true ⟨[], []⟩).1.toOption.isSome = true := by
    decide +kernel
  obtain ⟨report, hmake⟩ := exists_eq_ok_of_isSome hok
  have hreport := congrArg Prod.fst hmake
  obtain ⟨-, -, -, hreports⟩ :=
    affixes_decide_nothing ⟨"My ", "!"⟩ rivalsFile.manifest.candidates rivalsFile redressed
  have hentries := (hreports true ⟨[], []⟩ report hreport).1
  refine ⟨report, hreport, by decide +kernel, by decide +kernel, hentries, ?_⟩
  rw [hentries]
  decide +kernel

end GenerateReport

end AssetMenu
