import AssetMenu.Proofs.FileSystem.Tree
import AssetMenu.Proofs.Manifest.Checks
import AssetMenu.Proofs.Path.Components
import Mathlib.Data.List.Induction

/-!
# Following a path

A path leads where its components lead.  The blank segments in between only ask
for a directory, which the next component asks for as well, so they matter at the
end of a path at most.  Where no component leads upwards, the place that a path
leads to can be read off the path.
-/

namespace AssetMenu

open AssetMenu.Path

variable {fs : FileSystem} {start location next : Location} {segment : String}

theorem isBlank_toList_iff : isBlank segment.toList = true ↔ segment = "" ∨ segment = "." := by
  have hempty : segment.toList = "".toList ↔ segment = "" := String.toList_inj
  have hdot : segment.toList = ".".toList ↔ segment = "." := String.toList_inj
  rw [← hempty, ← hdot]
  simp [isBlank]

theorem Path.isBlank_of_mem_components {path : Path} (hsegment : segment ∈ path.components) :
    isBlank segment.toList = false := by
  simpa using (List.mem_filter.mp hsegment).2

/-- The last component of a path is a name or two dots. -/
theorem Path.isBlank_last {path : Path} {front : List String} {name : String}
    (hcomponents : path.components = front ++ [name]) : isBlank name.toList = false := by
  have hname : name ∈ path.components := by simp [hcomponents]
  exact isBlank_of_mem_components hname

namespace FileSystem

/-! ## One step -/

theorem step_eq (fs : FileSystem) (location : Location) (segment : String) :
    fs.step location segment =
      match fs.kindAt? location with
      | none => .error .notFound
      | some (.file _) => .error .notDirectory
      | some .directory =>
          if isBlank segment.toList then .ok location
          else if segment = ".." then .ok location.dropLast
          else if maxNameLength < segment.utf8ByteSize then .error .nameTooLong
          else if (fs.kindAt? (location ++ [segment])).isSome then .ok (location ++ [segment])
          else .error .notFound := by
  rw [step, kindAt?_eq_map]
  cases hat : fs.at? location with
  | none => rfl
  | some entry =>
      cases entry with
      | file content => rfl
      | directory children =>
          have hchild : (fs.kindAt? (location ++ [segment])).isSome =
              (children.lookup segment).isSome := by
            have hat : fs.root.at? location = some (.directory children) := hat
            rw [kindAt?, Entry.kindAt?_append, hat]
            simp only [Option.bind_some, Entry.kindAt?_cons_directory]
            cases children.lookup segment <;> simp [Entry.kindAt?_nil]
          simp only [Option.map_some, Entry.kind, hchild, isBlank_toList_iff]

theorem step_of_file {content : ByteArray}
    (hlocation : fs.kindAt? location = some (.file content)) :
    fs.step location segment = .error .notDirectory := by
  rw [step_eq, hlocation]

theorem step_of_isBlank (hlocation : fs.kindAt? location = some .directory)
    (hblank : isBlank segment.toList = true) : fs.step location segment = .ok location := by
  simp [step_eq, hlocation, hblank]

/-- The ways to take a step. -/
theorem step_eq_ok_iff :
    fs.step location segment = .ok next ↔ fs.kindAt? location = some .directory ∧
      if isBlank segment.toList then next = location
      else if segment = ".." then next = location.dropLast
      else segment.utf8ByteSize ≤ maxNameLength ∧ fs.kindAt? (location ++ [segment]) ≠ none ∧
        next = location ++ [segment] := by
  rw [step_eq]
  cases hlocation : fs.kindAt? location with
  | none => simp
  | some kind =>
      cases kind with
      | file content => simp
      | directory =>
          simp only [true_and]
          split
          · simp [eq_comm]
          split
          · simp [eq_comm]
          split
          next hlong => simp [Nat.not_le.mpr hlong]
          next hshort =>
            split
            next hsome => simp [Nat.not_lt.mp hshort, Option.isSome_iff_ne_none.mp hsome, eq_comm]
            next hnone => simp [Option.not_isSome_iff_eq_none.mp hnone]

/-- If the names are short enough, only a file can be in the way. -/
theorem exists_file_of_step {fault : Fault} (hstep : fs.step location segment = .error fault)
    (hfault : fault ≠ .notFound) (hshort : segment.utf8ByteSize ≤ maxNameLength) :
    ∃ content, fs.kindAt? location = some (.file content) := by
  rw [step_eq] at hstep
  split at hstep
  next => exact absurd (Except.error.inj hstep).symm hfault
  next content hlocation => exact ⟨content, hlocation⟩
  next =>
    rw [if_neg (Nat.not_lt.mpr hshort)] at hstep
    split at hstep
    · contradiction
    split at hstep
    · contradiction
    split at hstep
    · contradiction
    · exact absurd (Except.error.inj hstep).symm hfault

theorem kindAt?_of_step (hstep : fs.step location segment = .ok next) :
    fs.kindAt? next ≠ none := by
  obtain ⟨hlocation, hnext⟩ := step_eq_ok_iff.mp hstep
  split at hnext
  · simp [hnext, hlocation]
  split at hnext
  · simp [hnext, kindAt?_dropLast hlocation]
  · rw [hnext.2.2]
    exact hnext.2.1

/-! ## Several steps -/

theorem walk_nil (fs : FileSystem) (start : Location) : fs.walk start [] = .ok start := rfl

theorem walk_cons (fs : FileSystem) (start : Location) (segment : String)
    (segments : List String) :
    fs.walk start (segment :: segments) =
      fs.step start segment >>= fun location => fs.walk location segments :=
  List.foldlM_cons

theorem walk_append (fs : FileSystem) (start : Location) (front back : List String) :
    fs.walk start (front ++ back) =
      fs.walk start front >>= fun location => fs.walk location back :=
  List.foldlM_append

theorem walk_concat (fs : FileSystem) (start : Location) (front : List String)
    (segment : String) :
    fs.walk start (front ++ [segment]) =
      fs.walk start front >>= fun location => fs.step location segment := by
  rw [walk_append]
  congr 1
  funext location
  rw [walk_cons]
  cases fs.step location segment <;> rfl

theorem kindAt?_of_walk {segments : List String} (hstart : fs.kindAt? start ≠ none)
    (hwalk : fs.walk start segments = .ok location) : fs.kindAt? location ≠ none :=
  foldlM_keeps (p := fun location => fs.kindAt? location ≠ none)
    (fun _ _ _ _ _ hstep => kindAt?_of_step hstep) hstart hwalk

/-- Only names that are short enough lead anywhere. -/
theorem short_of_step (hstep : fs.step location segment = .ok next) :
    segment.utf8ByteSize ≤ maxNameLength := by
  obtain ⟨-, hnext⟩ := step_eq_ok_iff.mp hstep
  split at hnext
  next hblank =>
    rcases isBlank_toList_iff.mp hblank with rfl | rfl <;> decide
  next =>
    split at hnext
    next hparent =>
      subst hparent
      decide
    next => exact hnext.1

theorem short_of_walk {segments : List String} (hwalk : fs.walk start segments = .ok location) :
    ∀ segment ∈ segments, segment.utf8ByteSize ≤ maxNameLength := by
  induction segments generalizing start with
  | nil => simp
  | cons segment segments ih =>
      rw [walk_cons, bind_eq_ok_iff] at hwalk
      obtain ⟨next, hstep, hrest⟩ := hwalk
      exact List.forall_mem_cons.mpr ⟨short_of_step hstep, ih hrest⟩

/-- Behind a file nothing can be followed, be it blank or not. -/
theorem walk_of_file {content : ByteArray} (hstart : fs.kindAt? start = some (.file content))
    {segments : List String} (hne : segments ≠ []) :
    fs.walk start segments = .error .notDirectory := by
  cases segments with
  | nil => contradiction
  | cons segment segments =>
      rw [walk_cons, step_of_file hstart]
      rfl

theorem walk_eq_of_file {content : ByteArray} (hstart : fs.kindAt? start = some (.file content))
    (segments : List String) (hne : segments ≠ []) :
    fs.walk start segments =
      fs.walk start (segments.filter fun segment => !isBlank segment.toList) >>= fun location =>
        if ∃ segment, segments.getLast? = some segment ∧ isBlank segment.toList = true then
          fs.step location ""
        else .ok location := by
  rw [walk_of_file hstart hne]
  by_cases hnames : (segments.filter fun segment => !isBlank segment.toList) = []
  · have hlast : ∃ segment, segments.getLast? = some segment ∧ isBlank segment.toList = true := by
      refine ⟨segments.getLast hne, List.getLast?_eq_some_getLast hne, ?_⟩
      simpa using List.filter_eq_nil_iff.mp hnames _ (List.getLast_mem hne)
    rw [hnames, walk_nil]
    simp only [bind, Except.bind, if_pos hlast]
    exact (step_of_file hstart).symm
  · rw [walk_of_file hstart hnames]
    rfl

/-- A walk over blank segments and others is one over the others, and at its end a blank
segment asks for a directory. -/
theorem walk_eq (hstart : fs.kindAt? start = some .directory) (segments : List String) :
    fs.walk start segments =
      fs.walk start (segments.filter fun segment => !isBlank segment.toList) >>= fun location =>
        if ∃ segment, segments.getLast? = some segment ∧ isBlank segment.toList = true then
          fs.step location ""
        else .ok location := by
  induction segments generalizing start with
  | nil => rfl
  | cons segment segments ih =>
      cases hblank : isBlank segment.toList with
      | true =>
          rw [walk_cons, step_of_isBlank hstart hblank]
          cases segments with
          | nil =>
              have hlast : fs.step start "" = .ok start := step_of_isBlank hstart rfl
              simp [hblank, walk_nil, bind, Except.bind, hlast]
          | cons next segments =>
              simpa [hblank, List.getLast?_cons_cons, bind, Except.bind] using ih hstart
      | false =>
          rw [walk_cons, List.filter_cons_of_pos (by simp [hblank]), walk_cons]
          cases hstep : fs.step start segment with
          | error fault => rfl
          | ok location =>
              cases segments with
              | nil => simp [hblank, walk_nil, bind, Except.bind]
              | cons next segments =>
                  have hlast := List.getLast?_cons_cons (a := segment) (b := next) (l := segments)
                  rw [hlast]
                  obtain ⟨kind, hlocation⟩ := Option.ne_none_iff_exists'.mp (kindAt?_of_step hstep)
                  cases kind with
                  | directory =>
                      exact ih hlocation
                  | file content => exact walk_eq_of_file hlocation (next :: segments) (by simp)

/-! ## Paths -/

variable {path : Path}

theorem accept_eq_ok_iff :
    accept path = .ok () ↔
      '\x00' ∉ path.text.toList ∧ path.isEmpty = false ∧
        path.text.utf8ByteSize ≤ maxPathLength := by
  rw [accept]
  split
  next hnull => simp [List.contains_iff_mem.mp hnull]
  next hnull =>
    rw [List.contains_iff_mem] at hnull
    split
    next hempty => simp [hempty]
    next hempty =>
      split
      next hlong => simp [Nat.not_le.mpr hlong]
      next hlong => simp [hnull, hempty, Nat.not_lt.mp hlong]

theorem segments_ne_nil (path : Path) : segments path ≠ [] := by
  simp [segments, Text.fields_ne_nil]

theorem kindAt?_eq_directory_of_walk {segments : List String} (hne : segments ≠ [])
    (hwalk : fs.walk start segments = .ok location) : fs.kindAt? start = some .directory := by
  cases segments with
  | nil => contradiction
  | cons segment segments =>
      rw [walk_cons, bind_eq_ok_iff] at hwalk
      obtain ⟨next, hstep, -⟩ := hwalk
      exact (step_eq_ok_iff.mp hstep).1

/-- What can be followed as a whole can be followed as far as one of the paths above. -/
theorem accept_of_isPrefix {above : Path} (haccept : accept path = .ok ())
    (hwritten : above.text.toList <+: path.text.toList) (hne : above.isEmpty = false) :
    accept above = .ok () := by
  rw [accept_eq_ok_iff] at haccept ⊢
  obtain ⟨hnull, -, hsize⟩ := haccept
  refine ⟨fun hmem => hnull (hwritten.subset hmem), hne, ?_⟩
  obtain ⟨rest, hrest⟩ := hwritten
  have htext : path.text = above.text ++ String.ofList rest := by
    rw [← String.toList_inj, String.toList_append, String.toList_ofList, hrest]
  rw [htext, String.utf8ByteSize_append] at hsize
  omega

theorem startOf_eq_of_isPrefix {above : Path} (fs : FileSystem)
    (hwritten : above.text.toList <+: path.text.toList) (hne : above.isEmpty = false) :
    fs.startOf above = fs.startOf path := by
  rw [startOf, startOf, isAbsolute_eq_of_isPrefix hwritten hne]

/-- A path leads where its components lead, and if something follows the last of them, it
leads to a directory only. -/
theorem resolve_eq_ok_iff :
    fs.resolve path = .ok location ↔ accept path = .ok () ∧
      fs.kindAt? (fs.startOf path) = some .directory ∧
      fs.walk (fs.startOf path) path.components = .ok location ∧
      (path.Tidy ∨ fs.kindAt? location = some .directory) := by
  have hlast : fs.kindAt? location = some .directory → fs.step location "" = .ok location :=
    fun hlocation => step_of_isBlank hlocation rfl
  rw [resolve, bind_eq_ok_iff]
  constructor
  · rintro ⟨_, haccept, hwalk⟩
    have hstart := kindAt?_eq_directory_of_walk (segments_ne_nil path) hwalk
    rw [walk_eq hstart, bind_eq_ok_iff] at hwalk
    obtain ⟨found, hfound, hend⟩ := hwalk
    split at hend
    next =>
      obtain ⟨hdirectory, rfl⟩ := step_eq_ok_iff.mp hend
      exact ⟨haccept, hstart, hfound, Or.inr hdirectory⟩
    next htidy =>
      obtain rfl := Except.ok.inj hend
      exact ⟨haccept, hstart, hfound, Or.inl fun segment hsegment hblank =>
        absurd ⟨segment, hsegment, hblank⟩ htidy⟩
  · rintro ⟨haccept, hstart, hfound, hend⟩
    refine ⟨(), haccept, ?_⟩
    rw [walk_eq hstart, bind_eq_ok_iff]
    refine ⟨location, hfound, ?_⟩
    split
    next hblank =>
      obtain ⟨segment, hsegment, hblank⟩ := hblank
      apply hlast
      rcases hend with htidy | hdirectory
      · rw [htidy segment hsegment hblank] at hfound
        obtain rfl := Except.ok.inj hfound
        exact hstart
      · exact hdirectory
    next => rfl

theorem isEmpty_of_resolve (hresolve : fs.resolve path = .ok location) : path.isEmpty = false :=
  (accept_eq_ok_iff.mp (resolve_eq_ok_iff.mp hresolve).1).2.1

theorem kindAt?_of_resolve (hresolve : fs.resolve path = .ok location) :
    fs.kindAt? location ≠ none := by
  obtain ⟨-, hstart, hwalk, -⟩ := resolve_eq_ok_iff.mp hresolve
  exact kindAt?_of_walk (by simp [hstart]) hwalk

theorem find_eq_ok_iff {entry : Entry} :
    fs.find path = .ok entry ↔
      ∃ location, fs.resolve path = .ok location ∧ fs.at? location = some entry := by
  rw [find, bind_eq_ok_iff]
  refine exists_congr fun location => and_congr_right fun _ => ?_
  cases fs.at? location <;> simp

theorem exists_find_iff {kind : Kind} :
    (∃ entry, fs.find path = .ok entry ∧ entry.kind = kind) ↔
      ∃ location, fs.resolve path = .ok location ∧ fs.kindAt? location = some kind := by
  simp only [find_eq_ok_iff, kindAt?_eq_map, Option.map_eq_some_iff]
  constructor
  · rintro ⟨entry, ⟨location, hresolve, hat⟩, hkind⟩
    exact ⟨location, hresolve, entry, hat, hkind⟩
  · rintro ⟨location, hresolve, entry, hat, hkind⟩
    exact ⟨entry, ⟨location, hresolve, hat⟩, hkind⟩

theorem contains_iff : fs.contains path = true ↔ ∃ location, fs.resolve path = .ok location := by
  have hfind : fs.contains path = true ↔ ∃ entry, fs.find path = .ok entry := by
    rw [contains]
    cases fs.find path <;> simp
  rw [hfind]
  constructor
  · rintro ⟨entry, hentry⟩
    obtain ⟨location, hresolve, -⟩ := exists_find_iff.mp ⟨entry, hentry, rfl⟩
    exact ⟨location, hresolve⟩
  · rintro ⟨location, hresolve⟩
    obtain ⟨kind, hkind⟩ := Option.ne_none_iff_exists'.mp (kindAt?_of_resolve hresolve)
    obtain ⟨entry, hentry, -⟩ := exists_find_iff.mpr ⟨location, hresolve, hkind⟩
    exact ⟨entry, hentry⟩

theorem isDirectory_iff :
    fs.isDirectory path = true ↔
      ∃ location, fs.resolve path = .ok location ∧ fs.kindAt? location = some .directory := by
  rw [← exists_find_iff, isDirectory]
  cases fs.find path <;> simp [Entry.isDirectory_iff]

theorem readBytes_eq_ok_iff {content : ByteArray} :
    fs.readBytes path = .ok content ↔
      ∃ location, fs.resolve path = .ok location ∧
        fs.kindAt? location = some (.file content) := by
  rw [← exists_find_iff, readBytes, bind_eq_ok_iff]
  refine exists_congr fun entry => and_congr_right fun _ => ?_
  cases entry <;> simp [Entry.kind]

/-- What leads to a file leads to no directory. -/
theorem isDirectory_eq_false_of_readBytes {content : ByteArray}
    (hread : fs.readBytes path = .ok content) : fs.isDirectory path = false := by
  obtain ⟨location, hresolve, hfile⟩ := readBytes_eq_ok_iff.mp hread
  rw [Bool.eq_false_iff, Ne, isDirectory_iff]
  rintro ⟨found, hfound, hkind⟩
  obtain rfl := Except.ok.inj (hresolve.symm.trans hfound)
  simp [hfile] at hkind

/-- A path to a directory, by its components alone. -/
theorem isDirectory_iff_components :
    fs.isDirectory path = true ↔ accept path = .ok () ∧
      fs.kindAt? (fs.startOf path) = some .directory ∧
      ∃ location, fs.walk (fs.startOf path) path.components = .ok location ∧
        fs.kindAt? location = some .directory := by
  rw [isDirectory_iff]
  constructor
  · rintro ⟨location, hresolve, hkind⟩
    obtain ⟨haccept, hstart, hwalk, -⟩ := resolve_eq_ok_iff.mp hresolve
    exact ⟨haccept, hstart, location, hwalk, hkind⟩
  · rintro ⟨haccept, hstart, location, hwalk, hkind⟩
    exact ⟨location, resolve_eq_ok_iff.mpr ⟨haccept, hstart, hwalk, Or.inr hkind⟩, hkind⟩

/-- A path leads to a directory if another path to a directory has its components. -/
theorem isDirectory_of_components_eq {other : Path} (haccept : accept other = .ok ())
    (habsolute : other.isAbsolute = path.isAbsolute)
    (hcomponents : other.components = path.components)
    (hdirectory : fs.isDirectory path = true) : fs.isDirectory other = true := by
  have hstart : fs.startOf other = fs.startOf path := by rw [startOf, startOf, habsolute]
  rw [isDirectory_iff_components] at hdirectory ⊢
  rw [hstart, hcomponents]
  exact ⟨haccept, hdirectory.2⟩

theorem accept_directory {directory : Path} {name : String} (hholds : Holds directory path name)
    (haccept : accept path = .ok ()) : accept directory = .ok () := by
  rcases hholds.written with rfl | hwritten
  · rfl
  · exact accept_of_isPrefix haccept hwritten hholds.nonempty

theorem contains_of_isDirectory (hdirectory : fs.isDirectory path = true) :
    fs.contains path = true := by
  obtain ⟨location, hresolve, -⟩ := isDirectory_iff.mp hdirectory
  exact contains_iff.mpr ⟨location, hresolve⟩

theorem contains_of_readBytes {content : ByteArray} (hread : fs.readBytes path = .ok content) :
    fs.contains path = true := by
  obtain ⟨location, hresolve, -⟩ := readBytes_eq_ok_iff.mp hread
  exact contains_iff.mpr ⟨location, hresolve⟩

/-! ## Downward paths -/

/-- Names that lead downwards lead to the place that they spell out. -/
theorem walk_eq_ok_iff_of_downward {names : List String}
    (hnames : ∀ name ∈ names, isBlank name.toList = false ∧ name ≠ "..")
    (hstart : fs.kindAt? start = some .directory) :
    fs.walk start names = .ok location ↔ location = start ++ names ∧
      fs.kindAt? location ≠ none ∧ ∀ name ∈ names, name.utf8ByteSize ≤ maxNameLength := by
  induction names using List.reverseRecOn generalizing location with
  | nil =>
      simp only [walk_nil, Except.ok.injEq, List.append_nil, List.not_mem_nil, false_implies,
        implies_true, and_true]
      constructor
      · rintro rfl
        simp [hstart]
      · exact fun h => h.1.symm
  | append_singleton front name ih =>
      have hfront := fun other hother => hnames other (List.mem_append_left _ hother)
      obtain ⟨hblank, hparent⟩ := hnames name (by simp)
      rw [walk_concat, bind_eq_ok_iff, List.forall_mem_append, List.forall_mem_singleton,
        ← List.append_assoc]
      constructor
      · rintro ⟨above, hwalk, hstep⟩
        obtain ⟨rfl, -, hlengths⟩ := (ih hfront).mp hwalk
        obtain ⟨-, hnext⟩ := step_eq_ok_iff.mp hstep
        rw [if_neg (by simp [hblank]), if_neg hparent] at hnext
        obtain ⟨hlength, hsome, rfl⟩ := hnext
        exact ⟨rfl, hsome, hlengths, hlength⟩
      · rintro ⟨rfl, hsome, hlengths, hlength⟩
        have habove := kindAt?_eq_directory hsome
        refine ⟨start ++ front, (ih hfront).mpr ⟨rfl, by simp [habove], hlengths⟩, ?_⟩
        rw [step_eq_ok_iff, if_neg (by simp [hblank]), if_neg hparent]
        exact ⟨habove, hlength, hsome, rfl⟩

theorem components_downward (hdownward : ".." ∉ path.components) :
    ∀ name ∈ path.components, isBlank name.toList = false ∧ name ≠ ".." :=
  fun _ hname => ⟨isBlank_of_mem_components hname, fun hdots => hdownward (hdots ▸ hname)⟩

theorem location_eq_of_resolve (hdownward : ".." ∉ path.components)
    (hresolve : fs.resolve path = .ok location) :
    location = fs.startOf path ++ path.components := by
  obtain ⟨-, hstart, hwalk, -⟩ := resolve_eq_ok_iff.mp hresolve
  exact ((walk_eq_ok_iff_of_downward (components_downward hdownward) hstart).mp hwalk).1

end FileSystem

end AssetMenu
