import AssetMenu.Proofs.FileSystem.Delivery
import AssetMenu.Proofs.Generation.Endings
import AssetMenu.Proofs.Output.Atomicity
import AssetMenu.Template.PlainList

/-!
# Runs with entries

A run that comes to its end leaves its text in the output file and has changed nothing
else but for the directories on the way there.  The output path is still fit to be a
target then, and leads to a file that holds the text, so the same run a second time
finds nothing to do.
-/

namespace AssetMenu

open AssetMenu.Path

namespace OutputPath

variable {policy : DirectoryPolicy} {before fs after : FileSystem} {path : Path} {name : String}
  {text : String} {content : ByteArray} {outcome : WriteOutcome}

/-- A path stays a target if it comes to lead to a file. -/
theorem Target.of_readBytes (htarget : Target before path name)
    (hread : fs.readBytes path = .ok content) : Target fs path name where
  nonempty := htarget.nonempty
  noSlash := htarget.noSlash
  named := htarget.named
  noNul := htarget.noNul
  notDirectory := FileSystem.isDirectory_eq_false_of_readBytes hread

/-- A target in a directory that is there is accepted as it is. -/
theorem validate_eq_self (htarget : Target fs path name)
    (hdirectory : fs.isDirectory path.directory = true) :
    validate policy fs path = (.ok ⟨path⟩, fs) := by
  have hcontains := FileSystem.contains_of_isDirectory hdirectory
  have hprepare : prepareDirectory policy fs path.directory = (.ok (), fs) := by
    simp only [prepareDirectory, hcontains, checkDirectory, hdirectory, if_true]
  rw [validate_of_target htarget, hprepare]

end OutputPath

namespace Generation

variable {generation : Generation} {fs made after : FileSystem} {target : Location}
  {outcome : WriteOutcome} {result : GenerationResult}

/-- What is known of a run with entries that comes to its end. -/
structure Delivers (generation : Generation) (before made : FileSystem) (target : Location)
    (outcome : WriteOutcome) (after : FileSystem) : Prop where
  accepted : OutputPath.Accepted generation.config.policy before generation.config.output made
  leads : after.resolve generation.config.output = .ok target
  stores : made.Stores target (generation.emit generation.plan).toUTF8 after
  unchanged_iff : outcome = .unchanged ↔
    made.readBytes generation.config.output = .ok (generation.emit generation.plan).toUTF8

theorem Delivers.readBytes_eq (hdelivers : Delivers generation fs made target outcome after) :
    after.readBytes generation.config.output = .ok (generation.emit generation.plan).toUTF8 :=
  hdelivers.stores.readBytes_eq hdelivers.leads

theorem exists_delivers
    (hvalidate : OutputPath.validate generation.config.policy fs generation.config.output =
      (.ok ⟨generation.config.output⟩, made))
    (hwrite : OutputPath.write made ⟨generation.config.output⟩
      (generation.emit generation.plan) = (.ok outcome, after)) :
    ∃ target, Delivers generation fs made target outcome after := by
  obtain ⟨-, haccepted⟩ := OutputPath.accepted_of_validate hvalidate
  obtain ⟨name, htarget⟩ := haccepted.target
  have hreplaces := OutputPath.replaces_of_write htarget hwrite
  obtain ⟨target, hstores, hleads⟩ := hreplaces.stores
  exact ⟨target, haccepted, hleads, hstores, hreplaces.unchanged_iff⟩

/-- Where its text is in place, a run finds nothing to do. -/
theorem Delivers.run_eq (hdelivers : Delivers generation fs made target outcome after)
    (hplan : generation.plan.isEmpty = false) :
    generation.run after =
      (.ok ⟨generation.config.output, some .unchanged, generation.plan⟩, after) := by
  obtain ⟨name, htarget⟩ := hdelivers.accepted.target
  have hread := hdelivers.readBytes_eq
  have hdirectory := hdelivers.stores.keepsWays.isDirectory hdelivers.accepted.directory
  apply run_eq_iff.mpr
  apply Ends.written .unchanged after after
  case hvalidate => exact OutputPath.validate_eq_self (htarget.of_readBytes hread) hdirectory
  case hplan => exact hplan
  case hwrite => exact OutputPath.write_eq_unchanged hread

theorem preview_eq_some (hplan : generation.plan.isEmpty = false) :
    generation.preview = some (generation.emit generation.plan) := by
  simp only [preview, hplan, Bool.false_eq_true, if_false]

/-- A run with entries that comes to its end leaves the text of the preview in the output file,
and nothing else has changed but for directories on the way there.  It says that the file is
unchanged exactly if it held the text once its directory was made.  The same run a second time
answers this, with the same plan, and changes nothing. -/
theorem run_delivers (hplan : generation.plan.isEmpty = false)
    (hrun : generation.run fs = (.ok result, after)) :
    ∃ text target made,
      generation.preview = some text ∧ after.resolve generation.config.output = .ok target ∧
      fs.Receives (generation.config.output.directory ::
        generation.config.output.directory.parents) target text.toUTF8 after ∧
      OutputPath.validate generation.config.policy fs generation.config.output =
        (.ok ⟨generation.config.output⟩, made) ∧
      (∃ outcome, result = ⟨generation.config.output, some outcome, generation.plan⟩ ∧
        (outcome = .unchanged ↔ made.readBytes generation.config.output = .ok text.toUTF8)) ∧
      generation.run after =
        (.ok ⟨generation.config.output, some .unchanged, generation.plan⟩, after) := by
  cases run_eq_iff.mp hrun with
  | idle _ _ hempty => exact absurd (hempty.symm.trans hplan) nofun
  | written outcome made _ hvalidate _ hwrite =>
      obtain ⟨target, hdelivers⟩ := exists_delivers hvalidate hwrite
      exact ⟨_, target, made, preview_eq_some hplan, hdelivers.leads,
        hdelivers.accepted.creates.receives hdelivers.stores, hvalidate,
        ⟨outcome, rfl, hdelivers.unchanged_iff⟩, hdelivers.run_eq hplan⟩

/-- An output file from before, at the top. -/
def staleFile : FileSystem :=
  ⟨[("Menu.cs", .file "old".toUTF8)], []⟩

/-- A run with one entry, whose output is the file at the top by a directory that is missing. -/
def detourRun : Generation where
  config := Config.ofOutput ⟨"new/../Menu.cs"⟩
  candidates :=
    [⟨⟨"Game.Sword", none, false, false, true, [defaultBaseType]⟩, ⟨Affixes.none, none⟩⟩]
  template := Template.plainList

theorem run_detourRun :
    detourRun.plan.isEmpty = false ∧
      ∃ result after, detourRun.run staleFile = (.ok result, after) ∧ ∃ text target made,
        detourRun.preview = some text ∧ after.resolve detourRun.config.output = .ok target ∧
        staleFile.Receives (detourRun.config.output.directory ::
          detourRun.config.output.directory.parents) target text.toUTF8 after ∧
        OutputPath.validate detourRun.config.policy staleFile detourRun.config.output =
          (.ok ⟨detourRun.config.output⟩, made) ∧
        (∃ outcome, result = ⟨detourRun.config.output, some outcome, detourRun.plan⟩ ∧
          (outcome = .unchanged ↔ made.readBytes detourRun.config.output = .ok text.toUTF8)) ∧
        detourRun.run after =
          (.ok ⟨detourRun.config.output, some .unchanged, detourRun.plan⟩, after) := by
  have hplan : detourRun.plan.isEmpty = false := by decide +kernel
  have hok : (detourRun.run staleFile).1.toOption.isSome = true := by decide +kernel
  obtain ⟨result, hrun⟩ := exists_eq_ok_of_isSome hok
  exact ⟨hplan, result, _, hrun, run_delivers hplan hrun⟩

end Generation

end AssetMenu
