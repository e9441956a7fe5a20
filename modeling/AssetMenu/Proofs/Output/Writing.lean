import AssetMenu.Proofs.Output.Validation

/-!
# Writing the output file

An accepted path has a directory, but this does not make it a path that can be
written.  The directories made for it may have given it a directory to lead to, a
dot may stand behind the name of the file, and the name or the path may be longer
than the file system allows, be it that of the file or that of the temporary file
beside it.
-/

namespace AssetMenu

open AssetMenu.Path

namespace OutputPath

variable {policy : DirectoryPolicy} {before fs after : FileSystem} {path directory : Path}
  {target : OutputPath} {text : String} {content : ByteArray} {name : String}

/-! ## What a write asks for -/

theorem holds_eq_true_iff : holds fs path content = true ↔ fs.readBytes path = .ok content := by
  have hbytes : ∀ a b : ByteArray, (a == b) = true ↔ a = b := fun a b => by
    rw [ByteArray.ext_iff]
    exact beq_iff_eq (a := a.data)
  rw [holds]
  split
  next existing hread => rw [hread, hbytes, Except.ok.injEq]
  next fault hread => simp [hread]

/-- The path of the temporary file beside the output is not too long. -/
def Roomy (fs : FileSystem) (directory : Path) : Prop :=
  FileSystem.accept (fs.absolute (directory.join temporaryName)) = .ok ()

theorem stage_eq_ok_iff :
    stage fs directory = .ok () ↔ Roomy fs directory ∧ fs.isDirectory directory = true := by
  have hfind : fs.isDirectory directory = true ↔
      ∃ children, fs.find directory = .ok (.directory children) := by
    rw [FileSystem.isDirectory]
    rcases fs.find directory with fault | ⟨content | children⟩ <;> simp [Entry.isDirectory]
  rw [stage, bind_eq_ok_iff, hfind, Roomy]
  simp only [bind_eq_ok_iff]
  constructor
  · rintro ⟨_, hroomy, entry, hentry, hkind⟩
    cases entry with
    | file content => contradiction
    | directory children => exact ⟨hroomy, children, hentry⟩
  · rintro ⟨hroomy, children, hentry⟩
    exact ⟨(), hroomy, .directory children, hentry, rfl⟩

/-- A text that is there is not written again. -/
theorem write_eq_unchanged (hread : fs.readBytes path = .ok text.toUTF8) :
    write fs ⟨path⟩ text = (.ok .unchanged, fs) := by
  rw [write, holds_eq_true_iff.mpr hread]
  rfl

/-- A text that is not there yet is written as a whole or not at all. -/
theorem write_of_readBytes_ne (hread : fs.readBytes path ≠ .ok text.toUTF8) :
    (∃ changed, Roomy fs path.directory ∧ fs.isDirectory path.directory = true ∧
        fs.replaceFile path text.toUTF8 = .ok changed ∧
        write fs ⟨path⟩ text = (.ok .written, changed)) ∨
      ∃ fault, write fs ⟨path⟩ text = (.error (.writeFailed path fault), fs) := by
  have hholds : holds fs path text.toUTF8 = false := by
    rwa [Bool.eq_false_iff, Ne, holds_eq_true_iff]
  rw [write, hholds]
  simp only [Bool.false_eq_true, if_false]
  split
  next changed hchanged =>
    obtain ⟨_, hstage, hreplace⟩ := bind_eq_ok_iff.mp hchanged
    obtain ⟨hroomy, hdirectory⟩ := stage_eq_ok_iff.mp hstage
    exact Or.inl ⟨changed, hroomy, hdirectory, hreplace, rfl⟩
  next fault _ => exact Or.inr ⟨fault, rfl⟩

/-- Where the text can take the place of the file, it does. -/
theorem write_eq_written {changed : FileSystem}
    (hread : fs.readBytes path ≠ .ok text.toUTF8)
    (hroomy : Roomy fs path.directory)
    (hdirectory : fs.isDirectory path.directory = true)
    (hreplace : fs.replaceFile path text.toUTF8 = .ok changed) :
    write fs ⟨path⟩ text = (.ok .written, changed) := by
  have hholds : holds fs path text.toUTF8 = false := by
    rwa [Bool.eq_false_iff, Ne, holds_eq_true_iff]
  have hchanged : (stage fs path.directory >>= fun _ =>
      fs.replaceFile path text.toUTF8) = .ok changed :=
    bind_eq_ok_iff.mpr ⟨(), stage_eq_ok_iff.mpr ⟨hroomy, hdirectory⟩, hreplace⟩
  rw [write, hholds]
  simp only [Bool.false_eq_true, if_false, hchanged]

/-! ## What an accepted path lacks -/

/-- What it takes to write any text to a path. -/
structure Writable (fs : FileSystem) (path : Path) : Prop where
  notDirectory : fs.isDirectory path = false
  tidy : path.Tidy
  usable : Usable path
  roomy : Roomy fs path.directory

/-- In its directory, a usable path has a place. -/
theorem exists_standsIn (htarget : Target before path name)
    (hdirectory : fs.isDirectory path.directory = true) (htidy : path.Tidy)
    (husable : Usable path) : ∃ location, fs.StandsIn path location name := by
  have hholds := holds_of_target htarget
  have hname : name ∈ path.components := by simp [hholds.components]
  rw [FileSystem.isDirectory_iff_components, startOf_directory htarget] at hdirectory
  obtain ⟨-, hbegin, location, hwalk, hkind⟩ := hdirectory
  exact ⟨location, husable.accepted, hbegin, htidy, ⟨_, hholds.components, hwalk⟩, hkind,
    (getLast?_components htarget.named).2, husable.short name hname⟩

theorem usable_of_standsIn {location : Location} (hstands : fs.StandsIn path location name) :
    Usable path where
  accepted := hstands.accepted
  short := by
    obtain ⟨front, hcomponents, hwalk⟩ := hstands.components
    rw [hcomponents, List.forall_mem_append, List.forall_mem_singleton]
    exact ⟨FileSystem.short_of_walk hwalk, hstands.short⟩

theorem write_of_writable (htarget : Target before path name)
    (hdirectory : fs.isDirectory path.directory = true) (hwritable : Writable fs path)
    (text : String) : ∃ outcome after, write fs ⟨path⟩ text = (.ok outcome, after) := by
  obtain ⟨location, hstands⟩ :=
    exists_standsIn htarget hdirectory hwritable.tidy hwritable.usable
  by_cases hread : fs.readBytes path = .ok text.toUTF8
  · exact ⟨_, _, write_eq_unchanged hread⟩
  · have hreplace := hstands.replaceFile_eq text.toUTF8
    rw [hwritable.notDirectory, if_neg Bool.false_ne_true] at hreplace
    exact ⟨_, _, write_eq_written hread hwritable.roomy hdirectory hreplace⟩

/-- A file that was replaced stood where its path leads. -/
theorem replaceFile_eq_ok {changed : FileSystem} (htarget : Target before path name)
    (hchanged : fs.replaceFile path content = .ok changed) :
    ∃ location last, fs.StandsIn path location last ∧ fs.isDirectory path = false ∧
      changed = fs.put (location ++ [last]) (.file content) := by
  have htidy := FileSystem.tidy_of_replaceFile htarget.noSlash hchanged
  obtain ⟨location, last, hstands⟩ := FileSystem.standsIn_of_replaceFile htidy hchanged
  rw [hstands.replaceFile_eq] at hchanged
  split at hchanged
  next hdirectory => simp at hchanged
  next hfile =>
    exact ⟨location, last, hstands, by simpa using hfile, (Except.ok.inj hchanged).symm⟩

/-- A text that takes the place of the file shows that any text can. -/
theorem writable_of_replaceFile {changed : FileSystem} (htarget : Target before path name)
    (hroomy : Roomy fs path.directory) (hchanged : fs.replaceFile path content = .ok changed) :
    Writable fs path := by
  obtain ⟨location, last, hstands, hfile, -⟩ := replaceFile_eq_ok htarget hchanged
  exact ⟨hfile, hstands.tidy, usable_of_standsIn hstands, hroomy⟩

/-- A path that leads to a file can be written. -/
theorem writable_of_readBytes (hread : fs.readBytes path = .ok content)
    (hroomy : Roomy fs path.directory) : Writable fs path := by
  obtain ⟨location, hresolve, hfile⟩ := FileSystem.readBytes_eq_ok_iff.mp hread
  obtain ⟨haccept, -, hwalk, hend⟩ := FileSystem.resolve_eq_ok_iff.mp hresolve
  exact ⟨FileSystem.isDirectory_eq_false_of_readBytes hread, hend.resolve_right (by simp [hfile]),
    ⟨haccept, FileSystem.short_of_walk hwalk⟩, hroomy⟩

/-- A written text is the content of the file, and nothing else has changed. -/
theorem kindAt?_of_replaceFile {changed : FileSystem} (htarget : Target before path name)
    (hchanged : fs.replaceFile path content = .ok changed) :
    ∃ location, (∀ old, fs.readBytes path = .ok old ↔
        fs.kindAt? location = some (.file old)) ∧
      ∀ other, changed.kindAt? other =
        if other = location then some (.file content) else fs.kindAt? other := by
  obtain ⟨location, last, hstands, hfile, rfl⟩ := replaceFile_eq_ok htarget hchanged
  exact ⟨location ++ [last], fun _ => hstands.readBytes_eq_ok_iff,
    hstands.kindAt?_put hfile content⟩

/-- A write keeps the files unless it replaces another text. -/
theorem keepsFiles_write_iff (htarget : Target before path name)
    (hdirectory : fs.isDirectory path.directory = true) (text : String) :
    fs.KeepsFiles (write fs ⟨path⟩ text).2 ↔
      ¬ ∃ old, fs.readBytes path = .ok old ∧ old ≠ text.toUTF8 ∧ Roomy fs path.directory := by
  by_cases hread : fs.readBytes path = .ok text.toUTF8
  · rw [write_eq_unchanged hread]
    refine iff_of_true (.refl fs) ?_
    rintro ⟨old, hold, hne, -⟩
    exact hne (Except.ok.inj (hold.symm.trans hread))
  rcases write_of_readBytes_ne hread with
    ⟨changed, hroomy, -, hreplace, hwrite⟩ | ⟨fault, hwrite⟩
  · obtain ⟨location, hcontent, hchanged⟩ := kindAt?_of_replaceFile htarget hreplace
    rw [hwrite]
    constructor
    · rintro hkeeps ⟨old, hold, hne, -⟩
      have hkept := hkeeps location old ((hcontent old).mp hold)
      rw [hchanged, if_pos rfl, Option.some.injEq, Kind.file.injEq] at hkept
      exact hne hkept.symm
    · intro hnone other old hfile
      rw [hchanged]
      split
      next hplace =>
        subst hplace
        by_contra hne
        exact hnone ⟨old, (hcontent old).mpr hfile, fun hsame => hne (by rw [hsame]), hroomy⟩
      next => exact hfile
  · rw [hwrite]
    refine iff_of_true (.refl fs) ?_
    rintro ⟨old, hold, -, hroomy⟩
    obtain ⟨outcome, after, hwritten⟩ :=
      write_of_writable htarget hdirectory (writable_of_readBytes hold hroomy) text
    simp [hwrite] at hwritten

/-- A path that was accepted has its directory, but may lead to a directory itself if there are
two dots in it, and every text can be written to it exactly if it is writable. -/
theorem write_after_validate (hvalid : validate policy fs path = (.ok target, after)) :
    after.isDirectory target.path.directory = true ∧
      (after.isDirectory target.path = true → ".." ∈ target.path.components) ∧
      ((∀ text, ∃ outcome final, write after target text = (.ok outcome, final)) ↔
        Writable after target.path) := by
  obtain ⟨rfl, haccepted⟩ := accepted_of_validate hvalid
  obtain ⟨name, htarget⟩ := haccepted.target
  refine ⟨haccepted.directory, fun hdirectory => ?_, fun hwrite => ?_, fun hwritable text => ?_⟩
  · by_contra hdownward
    simp [haccepted.isDirectory_eq_false hdownward] at hdirectory
  · -- The file holds one of two texts at most, so one of them takes its place.
    have hother : ∃ text : String, after.readBytes path ≠ .ok text.toUTF8 := by
      by_cases hread : after.readBytes path = .ok "".toUTF8
      · refine ⟨"a", ?_⟩
        rw [hread, Ne, Except.ok.injEq]
        decide
      · exact ⟨"", hread⟩
    obtain ⟨text, hread⟩ := hother
    obtain ⟨outcome, final, hwritten⟩ := hwrite text
    rcases write_of_readBytes_ne hread with ⟨changed, hroomy, -, hreplace, -⟩ | ⟨fault, hfailed⟩
    · exact writable_of_replaceFile htarget hroomy hreplace
    · simp [hfailed] at hwritten
  · exact write_of_writable htarget haccepted.directory hwritable text

/-- A directory `sub` at the top. -/
def oneDirectory : FileSystem :=
  ⟨[("sub", .directory [])], []⟩

/-- The way to `sub` by a directory that is missing. -/
def detour : Path :=
  ⟨"new/../sub"⟩

theorem write_after_validate_detour :
    ∃ target after, validate .create oneDirectory detour = (.ok target, after) ∧
      after.isDirectory target.path.directory = true ∧
      (after.isDirectory target.path = true → ".." ∈ target.path.components) ∧
      ((∀ text, ∃ outcome final, write after target text = (.ok outcome, final)) ↔
        Writable after target.path) := by
  have hok : (validate .create oneDirectory detour).1.toOption.isSome = true := by decide +kernel
  obtain ⟨target, hvalid⟩ := exists_eq_ok_of_isSome hok
  exact ⟨target, _, hvalid, write_after_validate hvalid⟩

/-- Once the missing directory is made, the accepted path leads to a directory, and no text can
be written to it. -/
theorem validate_detour_not_writable :
    (validate .create oneDirectory detour).1 = .ok ⟨detour⟩ ∧
      (validate .create oneDirectory detour).2.isDirectory detour = true ∧
      (write (validate .create oneDirectory detour).2 ⟨detour⟩ "a").1.toOption = none :=
  ⟨eq_ok_of_toOption (by decide +kernel), by decide +kernel, by decide +kernel⟩

end OutputPath

end AssetMenu
