import AssetMenu.CommandLine.Run
import AssetMenu.Proofs.Output.Writing

/-!
# Writing the starter manifest

The starter manifest is written where there is nothing yet.  But this is looked up
before its path is accepted, and the directories made for the path may give it a file
to lead to.  So a file is lost if two dots lead to it from a directory that was
missing, and in no other way.
-/

namespace AssetMenu.CommandLine

open OutputPath AssetMenu.Path

variable {fs : FileSystem} {directory path : Path} {output : Option String} {text : String}

/-- The starter manifest with the output that the command was given. -/
def starterText (output : Option String) : String :=
  { Starter.standard with output := output.getD Starter.standard.output : Starter }.text

/-- A path that leads to nothing, and is accepted as a target, but leads to a file with
another text afterwards, which can be replaced. -/
structure Uncovers (fs : FileSystem) (path : Path) (text : String) : Prop where
  hidden : fs.contains path = false
  accepted : ∃ target, (validate .create fs path).1 = .ok target
  uncovered : ∃ old, (validate .create fs path).2.readBytes path = .ok old ∧ old ≠ text.toUTF8
  roomy : Roomy (validate .create fs path).2 path.directory

/-- A path that leads to something before it is accepted is no target of the command. -/
theorem run_init_of_contains (hthere : fs.contains (Starter.pathIn directory) = true) :
    (Command.run fs (.init directory output)).2 = fs := by
  simp only [Command.run, runInit, hthere, if_true]

theorem run_init_of_error {error : OutputError}
    (hmissing : fs.contains (Starter.pathIn directory) = false)
    (herror : (validate .create fs (Starter.pathIn directory)).1 = .error error) :
    (Command.run fs (.init directory output)).2 =
      (validate .create fs (Starter.pathIn directory)).2 := by
  simp only [Command.run, runInit, hmissing, Bool.false_eq_true, if_false]
  rcases hvalid : validate .create fs (Starter.pathIn directory) with ⟨cause | target, changed⟩
  · rfl
  · simp [hvalid] at herror

theorem run_init_of_ok {target : OutputPath}
    (hmissing : fs.contains (Starter.pathIn directory) = false)
    (hok : (validate .create fs (Starter.pathIn directory)).1 = .ok target) :
    (Command.run fs (.init directory output)).2 =
      (write (validate .create fs (Starter.pathIn directory)).2 target (starterText output)).2 := by
  simp only [Command.run, runInit, hmissing, Bool.false_eq_true, if_false]
  rcases hvalid : validate .create fs (Starter.pathIn directory) with ⟨cause | same, changed⟩
  · simp [hvalid] at hok
  · obtain rfl : same = target := by simpa [hvalid] using hok
    simp only [starterText]
    rcases write changed same _ with ⟨error | outcome, final⟩
    · rfl
    · rfl

/-- The command keeps the files unless its path uncovers one. -/
theorem keepsFiles_run_init (directory : Path) (output : Option String) (fs : FileSystem) :
    fs.KeepsFiles (Command.run fs (.init directory output)).2 ↔
      ¬ Uncovers fs (Starter.pathIn directory) (starterText output) := by
  have hgrows := grows_validate .create fs (Starter.pathIn directory)
  cases hthere : fs.contains (Starter.pathIn directory) with
  | true =>
      rw [run_init_of_contains hthere]
      refine iff_of_true (.refl _) fun huncovers => ?_
      exact Bool.false_ne_true (huncovers.hidden.symm.trans hthere)
  | false =>
      cases hvalid : (validate .create fs (Starter.pathIn directory)).1 with
      | error error =>
          rw [run_init_of_error hthere hvalid, hgrows.keepsFiles_iff]
          refine iff_of_true (.refl _) fun huncovers => ?_
          obtain ⟨target, htarget⟩ := huncovers.accepted
          simp [hvalid] at htarget
      | ok target =>
          obtain ⟨rfl, haccepted⟩ := accepted_of_validate_fst hvalid
          obtain ⟨name, htarget⟩ := haccepted.target
          rw [run_init_of_ok hthere hvalid, hgrows.keepsFiles_iff,
            keepsFiles_write_iff htarget haccepted.directory, not_iff_not]
          constructor
          · rintro ⟨old, hold, hne, hroomy⟩
            exact ⟨hthere, ⟨_, hvalid⟩, ⟨old, hold, hne⟩, hroomy⟩
          · intro huncovers
            obtain ⟨old, hold, hne⟩ := huncovers.uncovered
            exact ⟨old, hold, hne, huncovers.roomy⟩

/-! ## Where files are uncovered -/

theorem components_pathIn (directory : Path) :
    (Starter.pathIn directory).components = directory.components ++ ["menugen.toml"] :=
  components_join rfl

/-- The way to an uncovered file leads up from a directory that was missing. -/
theorem mem_components_of_uncovers (huncovers : Uncovers fs (Starter.pathIn directory) text) :
    ".." ∈ directory.components := by
  obtain ⟨old, hold, -⟩ := huncovers.uncovered
  have hgrows := grows_validate .create fs (Starter.pathIn directory)
  by_contra hdownward
  have hbefore := hgrows.readBytes_of_downward (by simp [components_pathIn, hdownward]) hold
  exact Bool.false_ne_true (huncovers.hidden.symm.trans (FileSystem.contains_of_readBytes hbefore))

theorem isDirectory_of_uncovers (huncovers : Uncovers fs (Starter.pathIn directory) text) :
    fs.isDirectory directory = false := by
  obtain ⟨target, hvalid⟩ := huncovers.accepted
  obtain ⟨-, haccepted⟩ := accepted_of_validate_fst hvalid
  obtain ⟨name, htarget⟩ := haccepted.target
  obtain ⟨old, hold, -⟩ := huncovers.uncovered
  have hholds := holds_of_target htarget
  obtain ⟨location, hresolve, -⟩ := FileSystem.readBytes_eq_ok_iff.mp hold
  obtain ⟨haccept, -⟩ := FileSystem.resolve_eq_ok_iff.mp hresolve
  rw [Bool.eq_false_iff]
  intro hdirectory
  have hne := (FileSystem.accept_eq_ok_iff.mp
    (FileSystem.isDirectory_iff_components.mp hdirectory).1).2.1
  have hcomponents := hholds.components
  rw [components_pathIn, List.append_singleton_inj] at hcomponents
  have hparent : fs.isDirectory (Starter.pathIn directory).directory = true :=
    FileSystem.isDirectory_of_components_eq (FileSystem.accept_directory hholds haccept)
      (hholds.isAbsolute.trans (isAbsolute_join rfl hne)) hcomponents.1.symm hdirectory
  rw [haccepted.same (Or.inr (FileSystem.contains_of_isDirectory hparent))] at hold
  exact Bool.false_ne_true (huncovers.hidden.symm.trans (FileSystem.contains_of_readBytes hold))

/-- The command keeps all files unless its path uncovers one, and this takes two dots in the
directory that it is given, which is then no directory. -/
theorem run_init_keepsFiles_iff (directory : Path) (output : Option String) (fs : FileSystem) :
    (fs.KeepsFiles (Command.run fs (.init directory output)).2 ↔
        ¬ Uncovers fs (Starter.pathIn directory) (starterText output)) ∧
      (Uncovers fs (Starter.pathIn directory) (starterText output) →
        ".." ∈ directory.components ∧ fs.isDirectory directory = false) :=
  ⟨keepsFiles_run_init directory output fs, fun huncovers =>
    ⟨mem_components_of_uncovers huncovers, isDirectory_of_uncovers huncovers⟩⟩

/-- A manifest at the top. -/
def oneManifest : FileSystem :=
  ⟨[("menugen.toml", .file "mine".toUTF8)], []⟩

/-- The manifest is lost if the command is told to start from a directory that is missing. -/
theorem run_init_loses_manifest :
    (oneManifest.readBytes ⟨"menugen.toml"⟩).toOption = some "mine".toUTF8 ∧
      (run ["init", "new/.."] oneManifest).1.exitCode = 0 ∧
      ((run ["init", "new/.."] oneManifest).2.readBytes ⟨"menugen.toml"⟩).toOption ≠
        some "mine".toUTF8 := by
  exact ⟨by decide +kernel, by decide +kernel, by decide +kernel⟩

end AssetMenu.CommandLine
