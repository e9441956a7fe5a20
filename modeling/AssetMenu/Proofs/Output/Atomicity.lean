import AssetMenu.Proofs.FileSystem.Removal
import AssetMenu.Proofs.Output.Writing

/-!
# All or nothing

A write is done by way of a temporary file: the text is put beside the output under a name
that is free there, and moved over it.  Where the move fails, the temporary file is taken
away again.  Nobody who does not ask for the temporary file by its name can tell that it is
there, so all this comes to the same as to put the text in place at once, or not at all.
-/

namespace AssetMenu

open AssetMenu.Path

namespace FileSystem

variable {before after : FileSystem} {place start location : Location} {temporary segment : String}
  {stored content : ByteArray} {path : Path}

/-! ## Beside a temporary file -/

/-- What a path leads to is replaced unless it is a directory. -/
theorem replaceFile_eq_kindAt? (fs : FileSystem) (path : Path) (content : ByteArray) :
    fs.replaceFile path content =
      fs.resolveLast path >>= fun found =>
        if isSpecial found.2 then .error .busy
        else if maxNameLength < found.2.utf8ByteSize then .error .nameTooLong
        else match fs.kindAt? (found.1 ++ [found.2]) with
          | some .directory => .error .isDirectory
          | _ => .ok (fs.put (found.1 ++ [found.2]) (.file content)) := by
  rw [replaceFile]
  congr 1
  funext found
  obtain ⟨location, name⟩ := found
  simp only [kindAt?_eq_map]
  rcases fs.at? (location ++ [name]) with _ | ⟨old | children⟩ <;> rfl

/-- The segment that is looked up last is a segment of the path, or blank. -/
theorem mem_segments_of_resolveLast (hfound : before.resolveLast path = .ok (location, segment)) :
    segment = "" ∨ segment ∈ segments path := by
  have haccept := (kindAt?_startOf_of_resolveLast hfound).1
  rw [resolveLast_eq_step haccept] at hfound
  obtain ⟨_, -, hlook⟩ := bind_eq_ok_iff.mp hfound
  obtain ⟨_, -, hpair⟩ := bind_eq_ok_iff.mp hlook
  obtain ⟨-, rfl⟩ := Prod.mk.inj (Except.ok.inj hpair)
  cases hlast : ((segments path).rdropWhile String.isEmpty).getLast? with
  | none => exact Or.inl rfl
  | some last =>
      exact Or.inr ((List.rdropWhile_prefix _ _).subset (List.mem_of_getLast? hlast))

namespace Stores

variable (hstores : before.Stores (place ++ [temporary]) stored after)
  (hfree : before.kindAt? (place ++ [temporary]) = none)

include hstores hfree

/-- A step to another name does not meet a file that was stored where nothing stood. -/
theorem step_eq_of_ne (hthere : before.kindAt? location ≠ none) (hne : segment ≠ temporary) :
    after.step location segment = before.step location segment := by
  have hlocation : location ≠ place ++ [temporary] := by
    rintro rfl
    exact hthere hfree
  have hnext : location ++ [segment] ≠ place ++ [temporary] := fun hsame =>
    hne (List.append_singleton_inj.mp hsame).2
  rw [step_eq, step_eq, hstores.others location hlocation, hstores.others _ hnext]

theorem walk_eq_of_not_mem {names : List String} (hstart : before.kindAt? start ≠ none)
    (hnames : temporary ∉ names) : after.walk start names = before.walk start names := by
  induction names generalizing start with
  | nil => rfl
  | cons name names ih =>
      rw [List.mem_cons, not_or] at hnames
      obtain ⟨hname, hrest⟩ := hnames
      rw [walk_cons, walk_cons, hstores.step_eq_of_ne hfree hstart (Ne.symm hname)]
      cases hstep : before.step start name with
      | error fault => rfl
      | ok next => exact ih (kindAt?_of_step hstep) hrest

variable (hblank : temporary ≠ "") (hnames : temporary ∉ segments path)
  (hstart : before.kindAt? (before.startOf path) ≠ none)

include hblank hnames hstart

theorem resolveLast_eq_of_not_mem : after.resolveLast path = before.resolveLast path := by
  cases haccept : accept path with
  | error fault =>
      rw [resolveLast, resolveLast, haccept]
      rfl
  | ok =>
      have hbegin : after.startOf path = before.startOf path := by
        rw [startOf, startOf, hstores.workingDirectory]
      have hbegins : ((segments path).rdropWhile String.isEmpty).dropLast ⊆ segments path :=
        fun _ hmem => (List.rdropWhile_prefix _ _).subset (List.dropLast_subset _ hmem)
      rw [resolveLast_eq_step haccept, resolveLast_eq_step haccept, hbegin,
        hstores.walk_eq_of_not_mem hfree hstart fun hmem => hnames (hbegins hmem)]
      cases hwalk : before.walk (before.startOf path)
          ((segments path).rdropWhile String.isEmpty).dropLast with
      | error fault => rfl
      | ok found =>
          have hlook := hstores.step_eq_of_ne hfree (kindAt?_of_walk hstart hwalk) hblank.symm
          simp only [bind, Except.bind, hlook]

/-- So a path that cannot be replaced cannot be replaced beside the new file either. -/
theorem replaceFile_eq_error_of_not_mem {fault : Fault}
    (hfault : before.replaceFile path content = .error fault) :
    after.replaceFile path content = .error fault := by
  rw [replaceFile_eq_kindAt?] at hfault ⊢
  rw [hstores.resolveLast_eq_of_not_mem hfree hblank hnames hstart]
  cases hfound : before.resolveLast path with
  | error first => rwa [hfound] at hfault
  | ok found =>
      have hname : found.2 ≠ temporary := by
        rintro rfl
        exact (mem_segments_of_resolveLast hfound).elim hblank hnames
      have hother : found.1 ++ [found.2] ≠ place ++ [temporary] := fun hsame =>
        hname (List.append_singleton_inj.mp hsame).2
      rw [hfound] at hfault
      simp only [bind, Except.bind, hstores.others _ hother] at hfault ⊢
      split
      next hspecial => rwa [if_pos hspecial] at hfault
      next hspecial =>
        rw [if_neg hspecial] at hfault
        split
        next hlong => rwa [if_pos hlong] at hfault
        next hlong =>
          rw [if_neg hlong] at hfault
          split
          next hdirectory => rwa [hdirectory] at hfault
          next => split at hfault <;> simp_all

end Stores

/-- Move a file over what a path leads to. -/
def moveFile (fs : FileSystem) (source : Location) (path : Path) : Except Fault FileSystem :=
  match fs.at? source with
  | some (.file content) => (fs.replaceFile path content).map (·.remove source)
  | some (.directory _) => .error .isDirectory
  | none => .error .notFound

theorem moveFile_eq (hfile : after.kindAt? location = some (.file content)) (path : Path) :
    after.moveFile location path =
      (after.replaceFile path content).map (·.remove location) := by
  have hat : after.at? location = some (.file content) := by
    rw [kindAt?_eq_map] at hfile
    obtain ⟨entry, hentry, hkind⟩ := Option.map_eq_some_iff.mp hfile
    cases entry with
    | file old =>
        obtain rfl := Kind.file.inj hkind
        exact hentry
    | directory children => contradiction
  rw [moveFile, hat]

end FileSystem

namespace OutputPath

variable {policy : DirectoryPolicy} {before fs after : FileSystem} {path : Path}
  {target : OutputPath} {name temporary text : String} {outcome : WriteOutcome}

/-! ## The write step by step -/

/-- Create a file with this content in a directory, under a name that is free there.  The answer
also says where the file stands. -/
def createTemporary (fs : FileSystem) (directory : Path) (temporary : String)
    (content : ByteArray) : Except Fault (Location × FileSystem) := do
  stage fs directory
  let location ← fs.resolve directory
  .ok (location ++ [temporary], fs.put (location ++ [temporary]) (.file content))

/-- Replace the content of the file by way of a temporary file, which is taken away again if it
cannot be moved over the output. -/
def writeByTemporary (temporary : String) (fs : FileSystem) (target : OutputPath) (text : String) :
    Except OutputError WriteOutcome × FileSystem :=
  if holds fs target.path text.toUTF8 then (.ok .unchanged, fs)
  else match createTemporary fs target.path.directory temporary text.toUTF8 with
    | .error fault => (.error (.writeFailed target.path fault), fs)
    | .ok (source, staged) =>
        match staged.moveFile source target.path with
        | .ok moved => (.ok .written, moved)
        | .error fault => (.error (.writeFailed target.path fault), staged.remove source)

/-- A name for the temporary file that is free in the directory of the output, and that the path
of the output does not ask for. -/
structure Fresh (fs : FileSystem) (path : Path) (temporary : String) : Prop where
  nonempty : temporary ≠ ""
  unnamed : temporary ∉ FileSystem.segments path
  free : ∀ location, fs.resolve path.directory = .ok location →
    fs.kindAt? (location ++ [temporary]) = none

theorem createTemporary_eq_error {directory : Path} {content : ByteArray} {fault : Fault}
    (hstage : stage fs directory = .error fault) :
    createTemporary fs directory temporary content = .error fault := by
  rw [createTemporary, hstage]
  rfl

/-- The temporary file stands in the directory of the output, and nothing else has changed. -/
theorem createTemporary_eq_ok {directory : Path} {place : Location} {content : ByteArray}
    (hstage : stage fs directory = .ok ()) (hresolve : fs.resolve directory = .ok place) :
    createTemporary fs directory temporary content =
      .ok (place ++ [temporary], fs.put (place ++ [temporary]) (.file content)) := by
  rw [createTemporary, hstage, hresolve]
  rfl

/-- What stands at the end of the path stands in its directory, under the name that the path was
accepted with. -/
theorem eq_of_standsIn {place location : Location} {last : String}
    (htarget : Target before path name) (hresolve : fs.resolve path.directory = .ok place)
    (hstands : fs.StandsIn path location last) : location = place ∧ last = name := by
  have hholds := holds_of_target htarget
  obtain ⟨front, hcomponents, hwalk⟩ := hstands.components
  have hsame : front = path.directory.components ∧ last = name :=
    List.append_singleton_inj.mp (hcomponents.symm.trans hholds.components)
  obtain ⟨-, -, hplace, -⟩ := FileSystem.resolve_eq_ok_iff.mp hresolve
  rw [startOf_directory htarget, ← hsame.1] at hplace
  exact ⟨Except.ok.inj (hwalk.symm.trans hplace), hsame.2⟩

theorem name_mem_segments (htarget : Target before path name) :
    name ∈ FileSystem.segments path := by
  have hname : name ∈ path.components := by simp [(holds_of_target htarget).components]
  exact List.mem_of_mem_filter hname

/-- A file that is replaced is replaced beside the temporary file too. -/
theorem replaceFile_beside {place : Location} {content stored : ByteArray} {staged : FileSystem}
    (htarget : Target before path name) (hfresh : Fresh fs path temporary)
    (hresolve : fs.resolve path.directory = .ok place)
    (hstores : fs.Stores (place ++ [temporary]) stored staged)
    (hchanged : fs.replaceFile path content = .ok after) :
    after = fs.put (place ++ [name]) (.file content) ∧
      staged.replaceFile path content = .ok (staged.put (place ++ [name]) (.file content)) := by
  obtain ⟨location, last, hstands, hfile, rfl⟩ := replaceFile_eq_ok htarget hchanged
  obtain ⟨rfl, rfl⟩ := eq_of_standsIn htarget hresolve hstands
  refine ⟨rfl, ?_⟩
  have hother : location ++ [last] ≠ location ++ [temporary] := by
    intro hsame
    obtain ⟨-, rfl⟩ := List.append_singleton_inj.mp hsame
    exact hfresh.unnamed (name_mem_segments htarget)
  have hbeside := hstands.keep hstores.keepsWays
  have hstill : staged.isDirectory path = false := by
    rw [Bool.eq_false_iff, Ne, hbeside.isDirectory_iff, hstores.others _ hother,
      ← hstands.isDirectory_iff, hfile]
    exact Bool.false_ne_true
  rw [hbeside.replaceFile_eq, hstill, if_neg Bool.false_ne_true]

/-- To move the temporary file over the output comes to the same as to put its text in place. -/
theorem moveFile_beside {place : Location} {content : ByteArray}
    (htarget : Target before path name) (hfresh : Fresh fs path temporary)
    (hresolve : fs.resolve path.directory = .ok place)
    (hplace : fs.kindAt? place = some .directory) :
    (fs.put (place ++ [temporary]) (.file content)).moveFile (place ++ [temporary]) path =
      fs.replaceFile path content := by
  have hfree := hfresh.free place hresolve
  have hold : fs.kindAt? (place ++ [temporary]) ≠ some .directory := by simp [hfree]
  have hstores := FileSystem.stores_put content hplace hold
  rw [FileSystem.moveFile_eq hstores.content]
  -- No segment of the path asks for the temporary file, so it is replaced beside it or not at all.
  cases hreplace : fs.replaceFile path content with
  | error fault =>
      have hstart : fs.kindAt? (fs.startOf path) ≠ none := by
        obtain ⟨-, hdirectory, -⟩ := FileSystem.resolve_eq_ok_iff.mp hresolve
        rw [startOf_directory htarget] at hdirectory
        simp [hdirectory]
      rw [hstores.replaceFile_eq_error_of_not_mem hfree hfresh.nonempty hfresh.unnamed hstart
        hreplace]
      rfl
  | ok changed =>
      obtain ⟨rfl, hbeside⟩ := replaceFile_beside htarget hfresh hresolve hstores hreplace
      have hne : name ≠ temporary := by
        rintro rfl
        exact hfresh.unnamed (name_mem_segments htarget)
      rw [hbeside, Except.map, FileSystem.remove_put_put _ _ hplace hfree hne]

/-- To write by way of a temporary file comes to the same as to put the text in place, and where
it cannot be moved there, nothing is left of it. -/
theorem writeByTemporary_eq (htarget : Target before path name)
    (hfresh : Fresh fs path temporary) (text : String) :
    writeByTemporary temporary fs ⟨path⟩ text = write fs ⟨path⟩ text := by
  rw [writeByTemporary, write]
  cases hholds : holds fs path text.toUTF8 with
  | true => simp only [if_true]
  | false =>
      simp only [Bool.false_eq_true, if_false]
      cases hstage : stage fs path.directory with
      | error fault =>
          rw [createTemporary_eq_error hstage]
          rfl
      | ok =>
          obtain ⟨place, hresolve, hplace⟩ :=
            FileSystem.isDirectory_iff.mp (stage_eq_ok_iff.mp hstage).2
          have hback := FileSystem.remove_put (.file text.toUTF8) hplace
            (hfresh.free place hresolve)
          cases hreplace : fs.replaceFile path text.toUTF8 <;>
            simp only [createTemporary_eq_ok hstage hresolve, bind, Except.bind,
              moveFile_beside htarget hfresh hresolve hplace, hback, hreplace]

/-! ## What a write leaves -/

/-- The text is where the path leads, all else is as it was, and the answer says whether the text
was there before, in which case all is as it was. -/
structure Replaces (before : FileSystem) (path : Path) (content : ByteArray)
    (outcome : WriteOutcome) (after : FileSystem) : Prop where
  stores : ∃ location, before.Stores location content after ∧ after.resolve path = .ok location
  unchanged_iff : outcome = .unchanged ↔ before.readBytes path = .ok content
  same : outcome = .unchanged → after = before

theorem Replaces.readBytes_eq {content : ByteArray}
    (hreplaces : Replaces before path content outcome after) :
    after.readBytes path = .ok content := by
  obtain ⟨location, hstores, hleads⟩ := hreplaces.stores
  exact hstores.readBytes_eq hleads

/-- A text that was written has replaced what the path led to. -/
theorem replaces_of_write (htarget : Target before path name)
    (hwrite : write fs ⟨path⟩ text = (.ok outcome, after)) :
    Replaces fs path text.toUTF8 outcome after := by
  by_cases hread : fs.readBytes path = .ok text.toUTF8
  · rw [write_eq_unchanged hread] at hwrite
    obtain ⟨houtcome, rfl⟩ := Prod.mk.inj hwrite
    obtain ⟨location, hresolve, hfile⟩ := FileSystem.readBytes_eq_ok_iff.mp hread
    exact ⟨⟨location, FileSystem.stores_of_kindAt? hfile, hresolve⟩,
      iff_of_true (Except.ok.inj houtcome).symm hread, fun _ => rfl⟩
  · rcases write_of_readBytes_ne hread with
      ⟨changed, -, -, hreplace, hwritten⟩ | ⟨fault, hfailed⟩
    · obtain ⟨houtcome, rfl⟩ := Prod.mk.inj (hwritten.symm.trans hwrite)
      obtain rfl := Except.ok.inj houtcome
      obtain ⟨location, last, hstands, hfile, rfl⟩ := replaceFile_eq_ok htarget hreplace
      exact ⟨⟨_, hstands.stores hfile text.toUTF8⟩, iff_of_false nofun hread, nofun⟩
    · simp [hfailed] at hwrite

/-- A text is written where it stands already, or in a directory that can take it in. -/
theorem write_eq_ok_iff (htarget : Target before path name) :
    (∃ outcome after, write fs ⟨path⟩ text = (.ok outcome, after)) ↔
      fs.readBytes path = .ok text.toUTF8 ∨
        fs.isDirectory path.directory = true ∧ Writable fs path := by
  constructor
  · rintro ⟨outcome, after, hwrite⟩
    by_cases hread : fs.readBytes path = .ok text.toUTF8
    · exact Or.inl hread
    · rcases write_of_readBytes_ne hread with
        ⟨changed, hroomy, hdirectory, hreplace, -⟩ | ⟨fault, hfailed⟩
      · exact Or.inr ⟨hdirectory, writable_of_replaceFile htarget hroomy hreplace⟩
      · simp [hfailed] at hwrite
  · rintro (hread | ⟨hdirectory, hwritable⟩)
    · exact ⟨_, _, write_eq_unchanged hread⟩
    · exact write_of_writable htarget hdirectory hwritable text

/-- Whatever has become of the file system since a path was accepted, a write leaves the text at
the path and changes nothing else, or it answers an error and changes nothing at all.  It writes
exactly if the text is there already or the directory can take it in.  A write by way of a
temporary file of any free name gives the same answer and leaves the same file system. -/
theorem write_all_or_nothing (hvalid : (validate policy before path).1 = .ok target)
    (fs : FileSystem) (text : String) :
    ((∃ outcome after, write fs target text = (.ok outcome, after) ∧
        after.readBytes target.path = .ok text.toUTF8 ∧
        Replaces fs target.path text.toUTF8 outcome after) ∨
      ∃ fault, write fs target text = (.error (.writeFailed target.path fault), fs)) ∧
    ((∃ outcome after, write fs target text = (.ok outcome, after)) ↔
      fs.readBytes target.path = .ok text.toUTF8 ∨
        fs.isDirectory target.path.directory = true ∧ Writable fs target.path) ∧
    ∀ temporary, Fresh fs target.path temporary →
      writeByTemporary temporary fs target text = write fs target text := by
  obtain ⟨rfl, haccepted⟩ := accepted_of_validate_fst hvalid
  obtain ⟨name, htarget⟩ := haccepted.target
  refine ⟨?_, write_eq_ok_iff htarget, fun _ hfresh => writeByTemporary_eq htarget hfresh text⟩
  by_cases hread : fs.readBytes path = .ok text.toUTF8
  · have hwrite := write_eq_unchanged hread
    exact Or.inl ⟨_, _, hwrite, hread, replaces_of_write htarget hwrite⟩
  · rcases write_of_readBytes_ne hread with ⟨changed, -, -, -, hwrite⟩ | hfailed
    · have hreplaces := replaces_of_write htarget hwrite
      exact Or.inl ⟨_, _, hwrite, hreplaces.readBytes_eq, hreplaces⟩
    · exact Or.inr hfailed

/-- A file system with nothing in it. -/
def emptyTree : FileSystem :=
  ⟨[], []⟩

/-- The same later, when an output file from another run is there. -/
def rewrittenTree : FileSystem :=
  ⟨[("Menu.cs", .file "old".toUTF8)], []⟩

/-- The output file at the top. -/
def menuFile : OutputPath :=
  ⟨⟨"Menu.cs"⟩⟩

/-- There is room for a temporary file beside it. -/
theorem fresh_rewrittenTree : Fresh rewrittenTree menuFile.path ".tmp000000" where
  nonempty := by decide
  unnamed := by decide +kernel
  free location hresolve := by
    have hplace : rewrittenTree.resolve menuFile.path.directory = .ok [] :=
      eq_ok_of_toOption (by decide +kernel)
    rw [hplace] at hresolve
    rw [← Except.ok.inj hresolve]
    exact Option.isNone_iff_eq_none.mp (by decide +kernel)

theorem write_rewrittenTree :
    (validate .create emptyTree menuFile.path).1 = .ok menuFile ∧
      Fresh rewrittenTree menuFile.path ".tmp000000" ∧
      ((∃ outcome after, write rewrittenTree menuFile "new" = (.ok outcome, after) ∧
          after.readBytes menuFile.path = .ok "new".toUTF8 ∧
          Replaces rewrittenTree menuFile.path "new".toUTF8 outcome after) ∨
        ∃ fault, write rewrittenTree menuFile "new" =
          (.error (.writeFailed menuFile.path fault), rewrittenTree)) ∧
      ((∃ outcome after, write rewrittenTree menuFile "new" = (.ok outcome, after)) ↔
        rewrittenTree.readBytes menuFile.path = .ok "new".toUTF8 ∨
          rewrittenTree.isDirectory menuFile.path.directory = true ∧
            Writable rewrittenTree menuFile.path) ∧
      writeByTemporary ".tmp000000" rewrittenTree menuFile "new" =
        write rewrittenTree menuFile "new" ∧
      (write rewrittenTree menuFile "new").1.toOption = some .written := by
  have hvalid : (validate .create emptyTree menuFile.path).1 = .ok menuFile :=
    eq_ok_of_toOption (by decide +kernel)
  obtain ⟨hwrite, hiff, hsame⟩ := write_all_or_nothing hvalid rewrittenTree "new"
  exact ⟨hvalid, fresh_rewrittenTree, hwrite, hiff, hsame _ fresh_rewrittenTree,
    by decide +kernel⟩

end OutputPath

end AssetMenu
