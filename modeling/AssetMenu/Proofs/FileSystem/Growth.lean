import AssetMenu.Proofs.FileSystem.Walk

/-!
# Growth

Directories that are added to a file system take nothing away from it.  Whatever a
path led to before, it leads to afterwards, but a path that led nowhere may lead to
something, and not only to one of the new directories: two dots behind a new
directory lead back to what was there before.
-/

namespace AssetMenu.FileSystem

variable {before middle after fs : FileSystem} {location start : Location} {path : Path}

/-- Where there is a directory now that was not there before, something has changed. -/
theorem ne_of_isDirectory (hbefore : before.isDirectory path = false)
    (hafter : after.isDirectory path = true) : after ≠ before := by
  rintro rfl
  exact Bool.false_ne_true (hbefore.symm.trans hafter)

/-- Every file is still there, with the same content. -/
def KeepsFiles (before after : FileSystem) : Prop :=
  ∀ location content, before.kindAt? location = some (.file content) →
    after.kindAt? location = some (.file content)

theorem KeepsFiles.refl (fs : FileSystem) : fs.KeepsFiles fs :=
  fun _ _ hfile => hfile

/-- Directories stay directories and nothing goes away, so every way can still be followed. -/
structure KeepsWays (before after : FileSystem) : Prop where
  workingDirectory : after.workingDirectory = before.workingDirectory
  directory : ∀ location, before.kindAt? location = some .directory →
    after.kindAt? location = some .directory
  present : ∀ location, before.kindAt? location ≠ none → after.kindAt? location ≠ none

namespace KeepsWays

theorem step {segment : String} {next : Location} (hkeeps : KeepsWays before after)
    (hstep : before.step location segment = .ok next) :
    after.step location segment = .ok next := by
  rw [step_eq_ok_iff] at hstep ⊢
  obtain ⟨hlocation, hnext⟩ := hstep
  refine ⟨hkeeps.directory location hlocation, ?_⟩
  split
  next hblank => rwa [if_pos hblank] at hnext
  next hblank =>
    rw [if_neg hblank] at hnext
    split
    next hparent => rwa [if_pos hparent] at hnext
    next hparent =>
      rw [if_neg hparent] at hnext
      obtain ⟨hshort, hsome, rfl⟩ := hnext
      exact ⟨hshort, hkeeps.present _ hsome, rfl⟩

theorem walk {segments : List String} (hkeeps : KeepsWays before after)
    (hwalk : before.walk start segments = .ok location) :
    after.walk start segments = .ok location := by
  induction segments generalizing start with
  | nil => exact hwalk
  | cons segment segments ih =>
      rw [walk_cons, bind_eq_ok_iff] at hwalk ⊢
      obtain ⟨next, hstep, hrest⟩ := hwalk
      exact ⟨next, hkeeps.step hstep, ih hrest⟩

theorem startOf_eq (hkeeps : KeepsWays before after) (path : Path) :
    after.startOf path = before.startOf path := by
  rw [startOf, startOf, hkeeps.workingDirectory]

theorem resolve (hkeeps : KeepsWays before after)
    (hresolve : before.resolve path = .ok location) : after.resolve path = .ok location := by
  rw [FileSystem.resolve, bind_eq_ok_iff] at hresolve ⊢
  obtain ⟨_, haccept, hwalk⟩ := hresolve
  rw [hkeeps.startOf_eq]
  exact ⟨(), haccept, hkeeps.walk hwalk⟩

theorem isDirectory (hkeeps : KeepsWays before after)
    (hdirectory : before.isDirectory path = true) : after.isDirectory path = true := by
  rw [isDirectory_iff] at hdirectory ⊢
  obtain ⟨location, hresolve, hkind⟩ := hdirectory
  exact ⟨location, hkeeps.resolve hresolve, hkeeps.directory location hkind⟩

end KeepsWays

/-- What stood somewhere stands there still, and what is new is a directory. -/
structure Grows (before after : FileSystem) : Prop where
  workingDirectory : after.workingDirectory = before.workingDirectory
  kept : ∀ location, before.kindAt? location ≠ none →
    after.kindAt? location = before.kindAt? location
  added : ∀ location, before.kindAt? location = none → after.kindAt? location ≠ none →
    after.kindAt? location = some .directory

namespace Grows

theorem refl (fs : FileSystem) : Grows fs fs :=
  ⟨rfl, fun _ _ => rfl, fun _ hnone hsome => absurd hnone hsome⟩

theorem trans (hfirst : Grows before middle) (hsecond : Grows middle after) :
    Grows before after where
  workingDirectory := hsecond.workingDirectory.trans hfirst.workingDirectory
  kept location hsome := by
    have hmiddle := hfirst.kept location hsome
    exact (hsecond.kept location (by rwa [hmiddle])).trans hmiddle
  added location hnone hsome := by
    by_cases hmiddle : middle.kindAt? location = none
    · exact hsecond.added location hmiddle hsome
    · exact (hsecond.kept location hmiddle).trans (hfirst.added location hnone hmiddle)

theorem kindAt?_eq_some {kind : Kind} (hgrows : Grows before after)
    (hkind : before.kindAt? location = some kind) : after.kindAt? location = some kind :=
  (hgrows.kept location (by simp [hkind])).trans hkind

/-- There are no new files. -/
theorem kindAt?_eq_file {content : ByteArray} (hgrows : Grows before after)
    (hfile : after.kindAt? location = some (.file content)) :
    before.kindAt? location = some (.file content) := by
  by_cases hbefore : before.kindAt? location = none
  · have hdirectory := hgrows.added location hbefore (by simp [hfile])
    simp [hfile] at hdirectory
  · exact (hgrows.kept location hbefore).symm.trans hfile

/-- Below what is new there are no files either. -/
theorem kindAt?_append_ne_file (hgrows : Grows before after)
    (hnew : before.kindAt? location = none) (below : Location) (content : ByteArray) :
    after.kindAt? (location ++ below) ≠ some (.file content) := by
  intro hfile
  have hbefore := hgrows.kindAt?_eq_file hfile
  cases below with
  | nil =>
      rw [List.append_nil, hnew] at hbefore
      contradiction
  | cons name rest =>
      have hbelow : before.kindAt? (location ++ name :: rest) ≠ none := by simp [hbefore]
      exact absurd ((kindAt?_eq_directory hbelow).symm.trans hnew) nofun

/-- So what keeps the files afterwards keeps those from before. -/
theorem keepsFiles_iff (hgrows : Grows before middle) :
    before.KeepsFiles after ↔ middle.KeepsFiles after := by
  constructor
  · intro hkeeps location content hfile
    exact hkeeps location content (hgrows.kindAt?_eq_file hfile)
  · intro hkeeps location content hfile
    exact hkeeps location content (hgrows.kindAt?_eq_some hfile)

theorem keepsWays (hgrows : Grows before after) : KeepsWays before after where
  workingDirectory := hgrows.workingDirectory
  directory _ hdirectory := hgrows.kindAt?_eq_some hdirectory
  present location hsome := by rwa [hgrows.kept location hsome]

theorem startOf_eq (hgrows : Grows before after) (path : Path) :
    after.startOf path = before.startOf path :=
  hgrows.keepsWays.startOf_eq path

theorem resolve (hgrows : Grows before after) (hresolve : before.resolve path = .ok location) :
    after.resolve path = .ok location :=
  hgrows.keepsWays.resolve hresolve

theorem isDirectory (hgrows : Grows before after) (hdirectory : before.isDirectory path = true) :
    after.isDirectory path = true :=
  hgrows.keepsWays.isDirectory hdirectory

/-- A path without two dots leads to nothing new but the place that it spells out, so it led
there before if there was anything. -/
theorem resolve_of_downward (hgrows : Grows before after) (hdownward : ".." ∉ path.components)
    (hresolve : after.resolve path = .ok location) (hthere : before.kindAt? location ≠ none) :
    before.resolve path = .ok location := by
  have hnames := components_downward hdownward
  rw [resolve_eq_ok_iff, hgrows.startOf_eq] at hresolve
  obtain ⟨haccept, hstart, hwalk, hend⟩ := hresolve
  obtain ⟨rfl, -, hshort⟩ := (walk_eq_ok_iff_of_downward hnames hstart).mp hwalk
  have hbefore : before.kindAt? (before.startOf path) = some .directory := by
    cases hcomponents : path.components with
    | nil =>
        rw [hcomponents, List.append_nil] at hthere
        exact (hgrows.kept _ hthere).symm.trans hstart
    | cons name names =>
        rw [hcomponents] at hthere
        exact kindAt?_eq_directory hthere
  rw [resolve_eq_ok_iff, walk_eq_ok_iff_of_downward hnames hbefore]
  exact ⟨haccept, hbefore, ⟨rfl, hthere, hshort⟩,
    hend.imp_right fun hkind => (hgrows.kept _ hthere).symm.trans hkind⟩

/-- So a path without two dots leads to no file that it did not lead to before. -/
theorem readBytes_of_downward {content : ByteArray} (hgrows : Grows before after)
    (hdownward : ".." ∉ path.components) (hcontent : after.readBytes path = .ok content) :
    before.readBytes path = .ok content := by
  obtain ⟨location, hresolve, hfile⟩ := readBytes_eq_ok_iff.mp hcontent
  have hbefore := hgrows.kindAt?_eq_file hfile
  exact readBytes_eq_ok_iff.mpr
    ⟨location, hgrows.resolve_of_downward hdownward hresolve (by simp [hbefore]), hbefore⟩

end Grows

/-- A new directory, in a directory that was there. -/
theorem grows_put {name : String} (hparent : fs.kindAt? location = some .directory)
    (hfree : fs.kindAt? (location ++ [name]) = none) :
    Grows fs (fs.put (location ++ [name]) (.directory [])) := by
  have hold : fs.kindAt? (location ++ [name]) ≠ some .directory := by simp [hfree]
  have hput := kindAt?_put Entry.isLeaf_directory hparent hold
  constructor
  case workingDirectory => exact workingDirectory_put fs _ _
  case kept =>
    intro other hother
    have hne : other ≠ location ++ [name] := by
      rintro rfl
      exact hother hfree
    rw [hput, if_neg hne]
  case added =>
    intro other hnone hsome
    rw [hput] at hsome ⊢
    split
    next => rfl
    next hne =>
      rw [if_neg hne] at hsome
      exact absurd hnone hsome

end AssetMenu.FileSystem
