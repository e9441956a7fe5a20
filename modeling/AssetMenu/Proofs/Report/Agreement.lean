import AssetMenu.Proofs.Generation.Rerun
import AssetMenu.Report.Generate

/-!
# What a dry run shows

A dry run and a run make the same plan, and decide by it alone whether there is
anything to generate.  So where both come to their end their reports agree, and the
text that the dry run shows is the one that the run leaves in the output file.
-/

namespace AssetMenu.GenerateReport

variable {file : ManifestFile} {overrides : Overrides} {fs after : FileSystem}
  {shown done : GenerateReport}

/-- What a dry run shows, if it does not refuse the output path. -/
theorem shown_eq_of_make (hshown : (make file overrides true fs).1 = .ok shown) :
    let generation := generation file overrides
    shown = ofPlan generation.config.output generation.plan
      (if generation.plan.isEmpty then .nothingToGenerate
        else .preview (generation.emit generation.plan)) := by
  rw [make, if_pos rfl, dryRun] at hshown
  obtain ⟨_, -, hreport⟩ := bind_eq_ok_iff.mp hshown
  exact (Except.ok.inj hreport).symm

/-- What a run reports is what it did. -/
theorem exists_run_of_make (hdone : make file overrides false fs = (.ok done, after)) :
    ∃ result, (generation file overrides).run fs = (.ok result, after) ∧
      done = ofPlan result.output result.plan (resultOf result.outcome) := by
  rw [make, if_neg Bool.false_ne_true, realRun] at hdone
  split at hdone
  · simp at hdone
  next result changed hrun =>
    obtain ⟨hreport, rfl⟩ := Prod.mk.inj hdone
    exact ⟨result, hrun, (Except.ok.inj hreport).symm⟩

/-- A dry run leaves everything as it is.  Where it and the run both come to their end, they
report the same output and the same entries, and either both or none of them that there is
nothing to generate.  If there is, then the text that is shown is in the output file after the
run. -/
theorem make_agrees (hshown : (make file overrides true fs).1 = .ok shown)
    (hdone : make file overrides false fs = (.ok done, after)) :
    (make file overrides true fs).2 = fs ∧
      shown.output = done.output ∧ shown.entries = done.entries ∧
      (shown.result = .nothingToGenerate ↔ done.result = .nothingToGenerate) ∧
      (shown.result = .nothingToGenerate ∨ ∃ content, shown.result = .preview content) ∧
      ∀ content, shown.result = .preview content →
        (done.result = .written ∨ done.result = .unchanged) ∧
          after.readBytes done.output = .ok content.toUTF8 := by
  obtain ⟨result, hrun, rfl⟩ := exists_run_of_make hdone
  obtain rfl := shown_eq_of_make hshown
  refine ⟨by rw [make, if_pos rfl], ?_⟩
  cases Generation.run_eq_iff.mp hrun with
  | idle _ _ hplan => simp [hplan, ofPlan, resultOf, Generation.idlePlan]
  | written outcome made _ hvalidate hplan hwrite =>
      obtain ⟨target, hdelivers⟩ := Generation.exists_delivers hvalidate hwrite
      have hread := hdelivers.readBytes_eq
      cases outcome <;> simp [hplan, ofPlan, resultOf, hread]

/-- A manifest file with one tagged type. -/
def swordFile : ManifestFile :=
  let tagged : TypeDeclaration :=
    ⟨none, some ⟨defaultBaseType, ⟨0, 0⟩⟩, false, false, true, some ⟨Affixes.none, none⟩⟩
  ⟨⟨Manifest.fileName⟩, "",
    ⟨⟨⟨"Menu.cs"⟩, 0, Affixes.none, defaultBaseType, true⟩, [("Game.Sword", tagged)]⟩⟩

/-- Another output, and a text in front of the names. -/
def renamed : Overrides :=
  { Overrides.none with output := some ⟨"new/../Menu.cs"⟩, before := some "My \"" }

theorem make_swordFile :
    ∃ shown done after,
      (make swordFile renamed true Generation.staleFile).1 = .ok shown ∧
      make swordFile renamed false Generation.staleFile = (.ok done, after) ∧
      shown.entries = [⟨"My \"Sword", "Game.Sword"⟩] ∧
      (∃ content, shown.result = .preview content) ∧ done.result = .written ∧
      (make swordFile renamed true Generation.staleFile).2 = Generation.staleFile ∧
      shown.output = done.output ∧ shown.entries = done.entries ∧
      (shown.result = .nothingToGenerate ↔ done.result = .nothingToGenerate) ∧
      (shown.result = .nothingToGenerate ∨ ∃ content, shown.result = .preview content) ∧
      ∀ content, shown.result = .preview content →
        (done.result = .written ∨ done.result = .unchanged) ∧
          after.readBytes done.output = .ok content.toUTF8 := by
  have hdry : (make swordFile renamed true Generation.staleFile).1.toOption.map (·.entries) =
      some [⟨"My \"Sword", "Game.Sword"⟩] := by
    decide +kernel
  have hreal : (make swordFile renamed false Generation.staleFile).1.toOption.map (·.result) =
      some .written := by
    decide +kernel
  obtain ⟨shown, hdryRun, hentries⟩ := exists_eq_ok_of_part hdry
  obtain ⟨done, hdone, hwritten⟩ := exists_eq_ok_of_part hreal
  have hshown := congrArg Prod.fst hdryRun
  have hagrees := make_agrees hshown hdone
  have ⟨_, _, _, hidle, hresult, _⟩ := hagrees
  -- what was written was worth showing
  have hpreview : ∃ content, shown.result = .preview content :=
    hresult.resolve_left fun hnothing => by simp [hidle.mp hnothing] at hwritten
  exact ⟨shown, done, _, hshown, hdone, hentries, hpreview, hwritten, hagrees⟩

end AssetMenu.GenerateReport
