import AssetMenu.Proofs.Report.Agreement
import AssetMenu.Proofs.Report.DryRun
import AssetMenu.Proofs.Script.LineEnds
import AssetMenu.Report.Check

/-!
# What a check foretells

The report of a check, the report of a run and the text of the script are three views of
one plan.  The check puts the types that get entries before all others, in the order of
their numbers, which is the order of the blocks in the script.  So its first entries can
be compared with the entries of a run and with the blocks one by one.
-/

namespace AssetMenu

open Code Template UnityScript

/-! ## The entries of a check -/

/-- Where the entries of a kind stand among the others. -/
def EntryStatus.rank : EntryStatus → Nat
  | .generated _ _ _ => 0
  | .excluded _ => 1
  | .skipped => 2

/-- A menu entry as a check announces it. -/
structure Announcement where
  typeName : String
  identifier : String
  menuPath : String
  priority : Int
  deriving DecidableEq, Repr

def CheckEntry.announcement? (entry : CheckEntry) : Option Announcement :=
  match entry.status with
  | .generated identifier menuPath priority =>
      some ⟨entry.typeName, identifier, menuPath, priority⟩
  | _ => none

namespace CheckReport

/-- The menu entries that a check announces. -/
def announced (report : CheckReport) : List Announcement :=
  report.entries.filterMap CheckEntry.announcement?

theorem generatedCount_eq (report : CheckReport) :
    report.generatedCount = report.announced.length := by
  rw [generatedCount, announced, List.length_filterMap_eq_countP]
  congr 1
  funext entry
  cases hstatus : entry.status <;> simp [CheckEntry.announcement?, hstatus]

variable {file : ManifestFile} {configPath : Path}

/-- The plan that a check reports on. -/
def planOf (file : ManifestFile) : Plan :=
  Plan.make (Config.ofFile file) file.manifest.candidates

/-- What a check announces of a named candidate. -/
def announcementOf (config : Config) (resolved : Resolved) : Announcement where
  typeName := resolved.candidate.type.fullName
  identifier := resolved.identifier
  menuPath := "Assets/Create/" ++ resolved.identifier
  priority := resolved.candidate.tag.order.getD config.order

theorem announced_make (file : ManifestFile) (configPath : Path) :
    (make file configPath).announced =
      (planOf file).entries.map (announcementOf (Config.ofFile file)) := by
  have hexcluded : ∀ rejected, (excludedEntry rejected).announcement? = none := fun _ => rfl
  have hskipped : ∀ candidate, (skippedEntry candidate).announcement? = none := fun _ => rfl
  rw [announced, make, List.filterMap_append, List.filterMap_append, List.filterMap_map,
    List.filterMap_map, List.filterMap_map]
  simp only [Function.comp_def, hexcluded, hskipped, List.filterMap_none, List.append_nil]
  exact congrFun List.filterMap_eq_map _

theorem typeNames_make (file : ManifestFile) (configPath : Path) :
    (make file configPath).entries.map (·.typeName) =
      (planOf file).entryNames ++ (planOf file).rejectedNames ++
        (planOf file).exhaustedNames := by
  simp only [make, List.map_append, List.map_map]
  rfl

/-- A report that lists the tagged types of a manifest. -/
structure Lists (report : CheckReport) (manifest : Manifest) : Prop where
  each_tagged : (report.entries.map (·.typeName)).Perm (manifest.tagged.map Prod.fst)
  once : (report.entries.map (·.typeName)).Nodup
  /-- Types that get entries, then those that are excluded, then those that are skipped. -/
  in_groups : (report.entries.map (·.status.rank)).Pairwise (· ≤ ·)

theorem lists_make (hnames : (file.manifest.types.map Prod.fst).Nodup) :
    Lists (make file configPath) file.manifest := by
  have hperm : ((make file configPath).entries.map (·.typeName)).Perm
      (file.manifest.tagged.map Prod.fst) := by
    rw [typeNames_make, ← file.manifest.map_fullName_candidates hnames, List.map_map]
    exact Plan.make_names_perm (Config.ofFile file) file.manifest.candidates
  constructor
  case each_tagged => exact hperm
  case once =>
    rw [hperm.nodup_iff, Manifest.map_fst_tagged]
    exact hnames.sublist (List.filter_sublist.map _)
  case in_groups =>
    have hgroups : (make file configPath).entries.map (·.status.rank) =
        List.replicate (planOf file).entries.length 0 ++
          List.replicate (planOf file).rejected.length 1 ++
            List.replicate (planOf file).exhausted.length 2 := by
      simp only [make, List.map_append, List.map_map, ← List.map_const]
      rfl
    rw [hgroups]
    simp [List.pairwise_append, List.pairwise_replicate]

/-! ## The blocks of the script -/

/-- A script whose blocks are the entries that a check announces, and which has no others. -/
structure Describes (report : CheckReport) (script : String) : Prop where
  opening_eq : (splitLines script).take 13 = opening
  blocks_eq : ∀ (k : Nat) (hk : k < report.announced.length),
    readBlock? (blockAt script k) =
      some { ordinal := k
             menuPath := report.announced[k].menuPath
             priority := report.announced[k].priority
             typeName := sourceName report.announced[k].typeName }
  closing_eq : (splitLines script).drop (13 + 8 * report.generatedCount) = closing ++ [""]

theorem describes_make {source name : String}
    (hread : Manifest.ofSource source name = .ok file.manifest) :
    Describes (make file configPath)
      (unityScript.emit (Config.ofFile file) (planOf file).entries) := by
  have hreads : ReadsBack (Config.ofFile file) (planOf file).entries
      (unityScript.emit (Config.ofFile file) (planOf file).entries) :=
    readsBack_emit_make hread (Config.ofFile file)
  constructor
  case opening_eq => exact hreads.opening_eq
  case blocks_eq =>
    intro k hk
    have hentry : k < (planOf file).entries.length := by
      rwa [announced_make, List.length_map] at hk
    have hordinal : (planOf file).entries[k].ordinal = k :=
      Plan.ordinal_getElem_entries _ _ hentry
    simp only [hreads.blocks_eq k hentry, announced_make, List.getElem_map, blockData, hordinal]
    rfl
  case closing_eq =>
    rw [generatedCount_eq, announced_make, List.length_map]
    exact hreads.closing_eq

/-! ## Runs -/

/-- The report of a run, and what it leaves behind, agree with what was announced. -/
structure Foretold (report : CheckReport) (script : String) (done : GenerateReport)
    (after : FileSystem) : Prop where
  entries_eq : done.entries = report.announced.map fun entry => ⟨entry.identifier, entry.typeName⟩
  idle_iff : done.result = .nothingToGenerate ↔ report.generatedCount = 0
  shown_eq : ∀ content, done.result = .preview content → content = script
  stored : done.result = .written ∨ done.result = .unchanged →
    after.readBytes done.output = .ok script.toUTF8

theorem isEmpty_planOf_iff :
    (planOf file).isEmpty = true ↔ (make file configPath).generatedCount = 0 := by
  rw [generatedCount_eq, announced_make, List.length_map, Plan.isEmpty, List.isEmpty_iff,
    List.length_eq_zero_iff]

/-- A report on the plan of a check agrees with the check as far as its result does. -/
theorem foretold_ofPlan {output : Path} {findings : List Finding} {result : GenerateResult}
    {script : String} {after : FileSystem}
    (hidle : result = .nothingToGenerate ↔ (planOf file).isEmpty = true)
    (hshown : ∀ content, result = .preview content → content = script)
    (hstored : result = .written ∨ result = .unchanged →
      after.readBytes output = .ok script.toUTF8) :
    Foretold (make file configPath) script
      (GenerateReport.ofPlan output { planOf file with findings } result) after where
  entries_eq := by
    rw [announced_make, List.map_map]
    rfl
  idle_iff := hidle.trans isEmpty_planOf_iff
  shown_eq := hshown
  stored := hstored

/-- The text that a run without overrides writes if there is anything to write. -/
def scriptOf (file : ManifestFile) : String :=
  (GenerateReport.generation file Overrides.none).emit
    (GenerateReport.generation file Overrides.none).plan

theorem dryRun_foretold (file : ManifestFile) (configPath : Path) (fs : FileSystem) :
    (∃ cause, GenerateReport.dryRun file Overrides.none fs = .error (.invalidOutputPath cause)) ∨
      ∃ done, GenerateReport.dryRun file Overrides.none fs = .ok done ∧
        Foretold (make file configPath) (scriptOf file) done fs := by
  rw [GenerateReport.dryRun, Generation.checkOutput]
  cases OutputPath.check (GenerateReport.generation file Overrides.none).config.policy fs
    (GenerateReport.generation file Overrides.none).config.output with
  | error cause => exact Or.inl ⟨cause, rfl⟩
  | ok =>
      refine Or.inr ⟨_, rfl, foretold_ofPlan ?idle ?shown ?stored⟩
      case idle =>
        split
        next hempty => exact iff_of_true rfl hempty
        next hentries => exact iff_of_false (by simp) hentries
      case shown =>
        intro content hshown
        split at hshown
        next => contradiction
        next => exact (GenerateResult.preview.inj hshown).symm
      case stored =>
        intro hstored
        split at hstored
        next => simp at hstored
        next => simp at hstored

theorem realRun_foretold (file : ManifestFile) (configPath : Path) (fs : FileSystem) :
    (∃ cause, (GenerateReport.realRun file Overrides.none fs).1 =
        .error (.invalidOutputPath cause)) ∨
      (∃ cause, (GenerateReport.realRun file Overrides.none fs).1 = .error (.writeFailure cause)) ∨
      ∃ done, (GenerateReport.realRun file Overrides.none fs).1 = .ok done ∧
        Foretold (make file configPath) (scriptOf file) done
          (GenerateReport.realRun file Overrides.none fs).2 := by
  rcases hrun : (GenerateReport.generation file Overrides.none).run fs with ⟨answer, after⟩
  simp only [GenerateReport.realRun, hrun]
  cases Generation.run_eq_iff.mp hrun with
  | refused cause => exact Or.inl ⟨cause, rfl⟩
  | failed cause => exact Or.inr (Or.inl ⟨cause, rfl⟩)
  | idle _ _ hplan =>
      refine Or.inr (Or.inr ⟨_, rfl, foretold_ofPlan ?_ ?_ ?_⟩)
      · exact iff_of_true rfl hplan
      · intro content hshown
        contradiction
      · intro hstored
        simp [GenerateReport.resultOf] at hstored
  | written outcome made _ hvalidate hplan hwrite =>
      obtain ⟨target, hdelivers⟩ := Generation.exists_delivers hvalidate hwrite
      refine Or.inr (Or.inr ⟨_, rfl, foretold_ofPlan ?_ ?_ ?_⟩)
      · have hentries : ¬ (planOf file).isEmpty = true := Bool.not_eq_true _ ▸ hplan
        cases outcome <;> simp [GenerateReport.resultOf, hentries]
      · cases outcome <;> simp [GenerateReport.resultOf]
      · exact fun _ => hdelivers.readBytes_eq

/-- A check lists every tagged type once.  What it announces, and nothing else, stands in the
script block by block.  A run without overrides, dry or not, that does not refuse the output path
and does not fail to write reports the same entries and leaves this script in the output file, or
shows it. -/
theorem make_foretells_run {source name : String} {file : ManifestFile}
    (hread : Manifest.ofSource source name = .ok file.manifest) (configPath : Path) :
    let report := make file configPath
    Lists report file.manifest ∧ report.generatedCount = report.announced.length ∧
      Describes report (scriptOf file) ∧
      ∀ isDryRun fs, let run := GenerateReport.make file Overrides.none isDryRun fs
        (∃ cause, GenerateReport.RefusesPath file Overrides.none fs cause isDryRun ∧
            run.1 = .error (.invalidOutputPath cause)) ∨
          (isDryRun = false ∧ ∃ cause, run.1 = .error (.writeFailure cause)) ∨
            ∃ done, run.1 = .ok done ∧ Foretold report (scriptOf file) done run.2 := by
  refine ⟨lists_make (Manifest.nodup_names_of_ofSource hread), generatedCount_eq _,
    describes_make hread, fun isDryRun fs => ?_⟩
  cases isDryRun with
  | true =>
      rcases dryRun_foretold file configPath fs with ⟨cause, hrefused⟩ | hdone
      · exact Or.inl ⟨cause, GenerateReport.make_fst_eq_error_iff.mp hrefused, hrefused⟩
      · exact Or.inr (Or.inr hdone)
  | false =>
      rcases realRun_foretold file configPath fs with ⟨cause, hrefused⟩ | hfailed | hdone
      · exact Or.inl ⟨cause, GenerateReport.make_fst_eq_error_iff.mp hrefused, hrefused⟩
      · exact Or.inr (Or.inl ⟨rfl, hfailed⟩)
      · exact Or.inr (Or.inr hdone)

/-- A type that is excluded, two that compete for a name, and a nested one with a quote in its
prefix. -/
def armorySource : String :=
  "[generator]\noutput = \"M.cs\"\norder = 10\nbase_type = \"S\"\n" ++
    "[types.Item]\nextends = \"S\"\nabstract = true\nmenu = \x7b\x7d\n" ++
    "[types.\"N.Sword\"]\nextends = \"Item\"\nmenu = \x7b order = -4 \x7d\n" ++
    "[types.Sword]\nextends = \"Item\"\nmenu = \x7b\x7d\n" ++
    "[types.\"Outer+Axe\"]\nextends = \"Item\"\nmenu = \x7b prefix = 'My \"' \x7d\n"

/-- The manifest file with `armorySource`. -/
def armoryFile : ManifestFile :=
  let declaration (base : String) (span : Document.Span) (isAbstract : Bool) (tag : MenuTag) :
      TypeDeclaration := ⟨none, some ⟨base, span⟩, isAbstract, false, true, some tag⟩
  ⟨⟨Manifest.fileName⟩, armorySource,
    ⟨⟨⟨"M.cs"⟩, 10, Affixes.none, "S", true⟩,
      [ ("Item", declaration "S" ⟨78, 81⟩ true ⟨Affixes.none, none⟩),
        ("N.Sword", declaration "Item" ⟨136, 142⟩ false ⟨Affixes.none, some (-4)⟩),
        ("Sword", declaration "Item" ⟨189, 195⟩ false ⟨Affixes.none, none⟩),
        ("Outer+Axe", declaration "Item" ⟨236, 242⟩ false ⟨⟨"My \"", ""⟩, none⟩) ]⟩⟩

theorem make_armoryFile :
    Manifest.ofSource armoryFile.content Manifest.fileName = .ok armoryFile.manifest ∧
      (make armoryFile ⟨Manifest.fileName⟩).announced =
        [ ⟨"N.Sword", "Sword", "Assets/Create/Sword", -4⟩,
          ⟨"Outer+Axe", "My \"Axe", "Assets/Create/My \"Axe", 10⟩ ] ∧
      Lists (make armoryFile ⟨Manifest.fileName⟩) armoryFile.manifest ∧
      Describes (make armoryFile ⟨Manifest.fileName⟩) (scriptOf armoryFile) ∧
      let run := GenerateReport.make armoryFile Overrides.none false ⟨[], []⟩
      ∃ done, run.1 = .ok done ∧ done.result = .written ∧
        done.entries = [⟨"Sword", "N.Sword"⟩, ⟨"My \"Axe", "Outer+Axe"⟩] ∧
        Foretold (make armoryFile ⟨Manifest.fileName⟩) (scriptOf armoryFile) done run.2 := by
  have hread : Manifest.ofSource armoryFile.content Manifest.fileName = .ok armoryFile.manifest :=
    eq_ok_of_toOption (by decide +kernel)
  have hreport : (GenerateReport.make armoryFile Overrides.none false ⟨[], []⟩).1.toOption.map
      (fun done => (done.result, done.entries)) =
        some (.written, [⟨"Sword", "N.Sword"⟩, ⟨"My \"Axe", "Outer+Axe"⟩]) := by
    decide +kernel
  obtain ⟨done, hrealRun, hwritten⟩ := exists_eq_ok_of_part hreport
  have hdone := congrArg Prod.fst hrealRun
  obtain ⟨hresult, hentries⟩ := Prod.mk.inj hwritten
  obtain ⟨hlists, -, hdescribes, hruns⟩ := make_foretells_run hread ⟨Manifest.fileName⟩
  refine ⟨hread, by decide +kernel, hlists, hdescribes, done, hdone, hresult, hentries, ?_⟩
  rcases hruns false ⟨[], []⟩ with ⟨_, -, hrefused⟩ | ⟨-, _, hfailed⟩ | ⟨other, hother, hrun⟩
  · exact absurd (hdone.symm.trans hrefused) (by simp)
  · exact absurd (hdone.symm.trans hfailed) (by simp)
  · obtain rfl := Except.ok.inj (hdone.symm.trans hother)
    exact hrun

end CheckReport

end AssetMenu
