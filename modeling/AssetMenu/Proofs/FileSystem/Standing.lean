import AssetMenu.FileSystem.Change
import AssetMenu.Proofs.FileSystem.Growth

/-!
# Where the last component stands

What is created or replaced at the end of a path stands in the directory that the
components before the last lead to.  If this directory is there and the last
component is a name of its own, there is one place that the path can lead to, and it
leads there if there is anything.
-/

namespace AssetMenu

open AssetMenu.Path

namespace FileSystem

variable {fs after : FileSystem} {path : Path} {location start : Location} {front : List String}
  {name : String} {content : ByteArray}

/-! ## The directory above -/

/-- Nothing but blank segments leads nowhere else. -/
theorem walk_of_isBlank (hstart : fs.kindAt? start = some .directory) {segments : List String}
    (hblank : ∀ segment ∈ segments, isBlank segment.toList = true) :
    fs.walk start segments = .ok start := by
  have hnone : (segments.filter fun segment => !isBlank segment.toList) = [] := by
    rw [List.filter_eq_nil_iff]
    intro segment hsegment
    simp [hblank segment hsegment]
  rw [walk_eq hstart, hnone, walk_nil]
  simp only [bind, Except.bind]
  split
  · exact step_of_isBlank hstart rfl
  · rfl

theorem isSpecial_eq_true_iff :
    isSpecial name = true ↔ isBlank name.toList = true ∨ name = ".." := by
  rw [isBlank_toList_iff]
  simp [isSpecial]

theorem isSpecial_last (hcomponents : path.components = front ++ [name]) :
    isSpecial name = true ↔ name = ".." := by
  simp [isSpecial_eq_true_iff, isBlank_last hcomponents]

/-- The last segment of a tidy path is its last component. -/
theorem segments_eq_concat (htidy : path.Tidy) (hcomponents : path.components = front ++ [name]) :
    ∃ segments', segments path = segments' ++ [name] ∧
      (segments'.filter fun segment => !isBlank segment.toList) = front := by
  rcases List.eq_nil_or_concat (segments path) with hnil | ⟨segments', last, hconcat⟩
  · exact absurd hnil (segments_ne_nil path)
  · rw [List.concat_eq_append] at hconcat
    have hlast : isBlank last.toList = false := by
      rw [Bool.eq_false_iff]
      intro hblank
      have hnone := htidy last (by rw [hconcat, List.getLast?_concat]) hblank
      simp [hcomponents] at hnone
    rw [components, hconcat, List.filter_append, List.filter_cons_of_pos (by simp [hlast]),
      List.filter_nil] at hcomponents
    obtain ⟨hfront, hname⟩ := List.append_singleton_inj.mp hcomponents
    exact ⟨segments', by rw [hconcat, hname], hfront⟩

/-- To look at what stands at a place as a directory is to take a blank step. -/
theorem step_blank_eq (fs : FileSystem) (location : Location) :
    fs.step location "" =
      match fs.at? location with
      | some (.directory _) => .ok location
      | some (.file _) => .error .notDirectory
      | none => .error .notFound := by
  rw [step]
  rcases fs.at? location with _ | ⟨content | children⟩ <;> rfl

theorem step_blank_bind {α : Type} (fs : FileSystem) (location : Location)
    (next : Location → Except Fault α) :
    (fs.step location "" >>= fun location => fs.step location "" >>= next) =
      fs.step location "" >>= next := by
  cases hstep : fs.step location "" with
  | error fault => rfl
  | ok found =>
      obtain ⟨-, rfl⟩ := step_eq_ok_iff.mp hstep
      simp only [bind, Except.bind, hstep]

/-- The last segment of a path that is not empty is looked at from the directory that the
segments before it lead to. -/
theorem resolveLast_eq_step (haccept : accept path = .ok ()) :
    fs.resolveLast path =
      fs.walk (fs.startOf path) ((segments path).rdropWhile String.isEmpty).dropLast >>=
        fun location => fs.step location "" >>= fun location =>
          .ok (location, ((segments path).rdropWhile String.isEmpty).getLast?.getD "") := by
  rw [resolveLast, haccept]
  change (fs.walk _ _ >>= _) = _
  congr 1
  funext location
  rw [step_blank_eq]
  rcases fs.at? location with _ | ⟨content | children⟩ <;> rfl

/-- A path with components is looked at from the directory that its last component stands
in. -/
theorem resolveLast_eq (haccept : accept path = .ok ())
    (hstart : fs.kindAt? (fs.startOf path) = some .directory) (htidy : path.Tidy)
    (hcomponents : path.components = front ++ [name]) :
    fs.resolveLast path =
      fs.walk (fs.startOf path) front >>= fun location =>
        fs.step location "" >>= fun location => .ok (location, name) := by
  obtain ⟨segments', hsegments, hfront⟩ := segments_eq_concat htidy hcomponents
  have hblank := isBlank_last hcomponents
  have hname : name.isEmpty = false := by
    rw [Bool.eq_false_iff, Ne, String.isEmpty_iff]
    rintro rfl
    simp [isBlank] at hblank
  have htrim : (segments path).rdropWhile String.isEmpty = segments' ++ [name] := by
    rw [hsegments, List.rdropWhile_concat_neg _ _ _ (by simp [hname])]
  rw [resolveLast_eq_step haccept, htrim, List.dropLast_concat, List.getLast?_concat,
    walk_eq hstart, hfront, bind_assoc]
  congr 1
  funext location
  split
  · exact step_blank_bind fs location _
  · rfl

/-- Without components there is nothing to look at but a blank segment, or none. -/
theorem resolveLast_of_components_eq_nil (haccept : accept path = .ok ())
    (hstart : fs.kindAt? (fs.startOf path) = some .directory)
    (hcomponents : path.components = []) :
    ∃ last, fs.resolveLast path = .ok (fs.startOf path, last) ∧ isSpecial last = true := by
  have hblank : ∀ segment ∈ segments path, isBlank segment.toList = true := by
    simpa [components] using List.filter_eq_nil_iff.mp hcomponents
  have hbegins : (segments path).rdropWhile String.isEmpty <+: segments path :=
    List.rdropWhile_prefix _ _
  have hwalk : fs.walk (fs.startOf path) ((segments path).rdropWhile String.isEmpty).dropLast =
      .ok (fs.startOf path) :=
    walk_of_isBlank hstart fun segment hsegment =>
      hblank segment (hbegins.subset (List.dropLast_subset _ hsegment))
  have hlook : fs.step (fs.startOf path) "" = .ok (fs.startOf path) :=
    step_of_isBlank hstart rfl
  refine ⟨((segments path).rdropWhile String.isEmpty).getLast?.getD "", ?_, ?_⟩
  · rw [resolveLast_eq_step haccept, hwalk]
    simp only [bind, Except.bind, hlook]
  rw [isSpecial_eq_true_iff]
  cases hlast : ((segments path).rdropWhile String.isEmpty).getLast? with
  | none => exact Or.inl rfl
  | some segment => exact Or.inl (hblank segment (hbegins.subset (List.mem_of_getLast? hlast)))

theorem kindAt?_startOf_of_resolveLast {found : Location × String}
    (hfound : fs.resolveLast path = .ok found) :
    accept path = .ok () ∧ fs.kindAt? (fs.startOf path) = some .directory := by
  obtain ⟨_, haccept, -⟩ := bind_eq_ok_iff.mp hfound
  refine ⟨haccept, ?_⟩
  rw [resolveLast_eq_step haccept, bind_eq_ok_iff] at hfound
  obtain ⟨location, hwalk, hrest⟩ := hfound
  obtain ⟨next, hstep, -⟩ := bind_eq_ok_iff.mp hrest
  by_cases hnil : ((segments path).rdropWhile String.isEmpty).dropLast = []
  · rw [hnil] at hwalk
    obtain rfl := Except.ok.inj hwalk
    exact (step_eq_ok_iff.mp hstep).1
  · exact kindAt?_eq_directory_of_walk hnil hwalk

/-- The last component of a path, a name, stands in the directory at a place, if it stands
anywhere. -/
structure StandsIn (fs : FileSystem) (path : Path) (location : Location) (name : String) :
    Prop where
  accepted : accept path = .ok ()
  start : fs.kindAt? (fs.startOf path) = some .directory
  tidy : path.Tidy
  components : ∃ front, path.components = front ++ [name] ∧
    fs.walk (fs.startOf path) front = .ok location
  parent : fs.kindAt? location = some .directory
  downward : name ≠ ".."
  short : name.utf8ByteSize ≤ maxNameLength

namespace StandsIn

variable (hstands : StandsIn fs path location name)

include hstands

theorem resolve_eq_ok_iff {found : Location} :
    fs.resolve path = .ok found ↔ found = location ++ [name] ∧ fs.kindAt? found ≠ none := by
  obtain ⟨front, hcomponents, hwalk⟩ := hstands.components
  have hblank : isBlank name.toList ≠ true := by simp [isBlank_last hcomponents]
  have hlast : fs.walk (fs.startOf path) path.components = fs.step location name := by
    rw [hcomponents, walk_concat, hwalk]
    rfl
  rw [FileSystem.resolve_eq_ok_iff, hlast, step_eq_ok_iff, if_neg hblank, if_neg hstands.downward]
  constructor
  · rintro ⟨-, -, ⟨-, -, hsome, rfl⟩, -⟩
    exact ⟨rfl, hsome⟩
  · rintro ⟨rfl, hsome⟩
    exact ⟨hstands.accepted, hstands.start, ⟨hstands.parent, hstands.short, hsome, rfl⟩,
      Or.inl hstands.tidy⟩

theorem isDirectory_iff :
    fs.isDirectory path = true ↔ fs.kindAt? (location ++ [name]) = some .directory := by
  rw [FileSystem.isDirectory_iff]
  constructor
  · rintro ⟨found, hresolve, hkind⟩
    obtain ⟨rfl, -⟩ := hstands.resolve_eq_ok_iff.mp hresolve
    exact hkind
  · intro hkind
    exact ⟨_, hstands.resolve_eq_ok_iff.mpr ⟨rfl, by simp [hkind]⟩, hkind⟩

theorem readBytes_eq_ok_iff :
    fs.readBytes path = .ok content ↔
      fs.kindAt? (location ++ [name]) = some (.file content) := by
  rw [FileSystem.readBytes_eq_ok_iff]
  constructor
  · rintro ⟨found, hresolve, hkind⟩
    obtain ⟨rfl, -⟩ := hstands.resolve_eq_ok_iff.mp hresolve
    exact hkind
  · intro hkind
    exact ⟨_, hstands.resolve_eq_ok_iff.mpr ⟨rfl, by simp [hkind]⟩, hkind⟩

/-- A change that keeps the ways keeps the place. -/
theorem keep (hkeeps : fs.KeepsWays after) : after.StandsIn path location name := by
  obtain ⟨front, hcomponents, hwalk⟩ := hstands.components
  have hstart := hkeeps.startOf_eq path
  constructor
  case accepted => exact hstands.accepted
  case start =>
    rw [hstart]
    exact hkeeps.directory _ hstands.start
  case tidy => exact hstands.tidy
  case components =>
    rw [hstart]
    exact ⟨front, hcomponents, hkeeps.walk hwalk⟩
  case parent => exact hkeeps.directory _ hstands.parent
  case downward => exact hstands.downward
  case short => exact hstands.short

theorem resolveLast_eq : fs.resolveLast path = .ok (location, name) := by
  obtain ⟨front, hcomponents, hwalk⟩ := hstands.components
  have hlook : fs.step location "" = .ok location := step_of_isBlank hstands.parent rfl
  rw [FileSystem.resolveLast_eq hstands.accepted hstands.start hstands.tidy hcomponents, hwalk]
  simp only [bind, Except.bind, hlook]

theorem isSpecial_eq_false : isSpecial name = false := by
  obtain ⟨front, hcomponents, -⟩ := hstands.components
  rw [Bool.eq_false_iff, Ne, isSpecial_last hcomponents]
  exact hstands.downward

end StandsIn

/-- A last segment that is a name stands in the directory that it was looked up in. -/
theorem standsIn_of_resolveLast (htidy : path.Tidy)
    (hfound : fs.resolveLast path = .ok (location, name)) (hspecial : isSpecial name = false)
    (hshort : name.utf8ByteSize ≤ maxNameLength) : fs.StandsIn path location name := by
  obtain ⟨haccept, hstart⟩ := kindAt?_startOf_of_resolveLast hfound
  rcases List.eq_nil_or_concat path.components with hnil | ⟨front, last, hcomponents⟩
  · obtain ⟨segment, hsegment, hblank⟩ := resolveLast_of_components_eq_nil haccept hstart hnil
    rw [hsegment] at hfound
    obtain ⟨-, rfl⟩ := Prod.mk.inj (Except.ok.inj hfound)
    simp [hspecial] at hblank
  · rw [List.concat_eq_append] at hcomponents
    rw [resolveLast_eq haccept hstart htidy hcomponents, bind_eq_ok_iff] at hfound
    obtain ⟨place, hwalk, hlook⟩ := hfound
    obtain ⟨same, hstep, hpair⟩ := bind_eq_ok_iff.mp hlook
    obtain ⟨hparent, hsame⟩ := step_eq_ok_iff.mp hstep
    obtain rfl : same = place := hsame
    obtain ⟨rfl, rfl⟩ := Prod.mk.inj (Except.ok.inj hpair)
    have hdownward : last ≠ ".." := fun hdots => by
      simp [(isSpecial_last hcomponents).mpr hdots] at hspecial
    exact ⟨haccept, hstart, htidy, ⟨front, hcomponents, hwalk⟩, hparent, hdownward, hshort⟩

end FileSystem

end AssetMenu
