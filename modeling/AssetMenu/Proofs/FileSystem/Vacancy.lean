import AssetMenu.Proofs.FileSystem.Obstruction

/-!
# Where the creation of directories begins

A directory can be created where a path leads nowhere for want of its last component
alone.  Of a path and the paths above it this can be said of one at most, and the
creation of all that are missing begins there.  So a creation that breaks off leaves
something behind exactly if there is such a path above, and a name that is too long
or a file that two dots lead to is found further down.
-/

namespace AssetMenu.FileSystem

open AssetMenu.Path

variable {fs after : FileSystem} {path above : Path}

/-- The last component is missing from a directory that is there. -/
def Vacant (fs : FileSystem) (path : Path) : Prop :=
  ∃ location name, fs.StandsIn path location name ∧ fs.kindAt? (location ++ [name]) = none

theorem vacant_iff_createDirectory (htidy : path.Tidy) :
    fs.Vacant path ↔ ∃ changed, fs.createDirectory path = .ok changed := by
  simp only [createDirectory_eq_ok_iff htidy, Vacant]
  constructor
  · rintro ⟨location, name, hstands, hfree⟩
    exact ⟨_, location, name, hstands, hfree, rfl⟩
  · rintro ⟨_, location, name, hstands, hfree, -⟩
    exact ⟨location, name, hstands, hfree⟩

/-! ## What lies below a vacant path -/

namespace Vacant

theorem accepted (hvacant : fs.Vacant path) : accept path = .ok () := by
  obtain ⟨location, name, hstands, -⟩ := hvacant
  exact hstands.accepted

theorem isEmpty_eq_false (hvacant : fs.Vacant path) : path.isEmpty = false :=
  (accept_eq_ok_iff.mp hvacant.accepted).2.1

theorem start (hvacant : fs.Vacant path) : fs.kindAt? (fs.startOf path) = some .directory := by
  obtain ⟨location, name, hstands, -⟩ := hvacant
  exact hstands.start

theorem components_ne_nil (hvacant : fs.Vacant path) : path.components ≠ [] := by
  obtain ⟨location, name, hstands, -⟩ := hvacant
  obtain ⟨front, hcomponents, -⟩ := hstands.components
  simp [hcomponents]

theorem isDirectory_eq_false (hvacant : fs.Vacant path) : fs.isDirectory path = false := by
  obtain ⟨location, name, hstands, hfree⟩ := hvacant
  rw [Bool.eq_false_iff, Ne, hstands.isDirectory_iff, hfree]
  simp

/-- Whatever begins like a vacant path leads nowhere. -/
theorem walk_eq (hvacant : fs.Vacant path) {names : List String}
    (hbegins : path.components <+: names) :
    fs.walk (fs.startOf path) names = .error .notFound := by
  obtain ⟨location, name, hstands, hfree⟩ := hvacant
  obtain ⟨front, hcomponents, hwalk⟩ := hstands.components
  obtain ⟨rest, rfl⟩ := hbegins
  have hstep : fs.step location name = .error .notFound := by
    rw [step_eq, hstands.parent]
    simp [isBlank_last hcomponents, hstands.downward, Nat.not_lt.mpr hstands.short, hfree]
  rw [walk_append, hcomponents, walk_concat, hwalk]
  simp only [bind, Except.bind, hstep]

theorem contains_eq_false (hvacant : fs.Vacant above) (htidy : path.Tidy)
    (hmem : above ∈ path :: path.parents) : fs.contains path = false := by
  have habove := above_of_mem htidy hmem
  rw [Bool.eq_false_iff, Ne, contains_iff]
  rintro ⟨location, hresolve⟩
  obtain ⟨-, -, hwalk, -⟩ := resolve_eq_ok_iff.mp hresolve
  rw [← startOf_eq_of_isPrefix fs habove.written hvacant.isEmpty_eq_false,
    hvacant.walk_eq habove.components] at hwalk
  contradiction

/-- So no directory can be created further down. -/
theorem createDirectory_below (hvacant : fs.Vacant above) (haccept : accept path = .ok ())
    (htidy : path.Tidy) (hmem : above ∈ path.parents) :
    fs.createDirectory path = .error .notFound := by
  have hbegins := isPrefix_dropLast_of_mem_parents hmem
  have hstart := startOf_eq_of_isPrefix fs (above_of_mem_parents hmem).written
    hvacant.isEmpty_eq_false
  have hwalk := hvacant.walk_eq hbegins
  rcases List.eq_nil_or_concat path.components with hnil | ⟨front, name, hcomponents⟩
  · rw [hnil] at hbegins
    exact absurd (List.prefix_nil.mp hbegins) hvacant.components_ne_nil
  · rw [List.concat_eq_append] at hcomponents
    rw [hcomponents, List.dropLast_concat, hstart] at hwalk
    rw [createDirectory_eq haccept (hstart ▸ hvacant.start) htidy hcomponents, hwalk]
    rfl

/-- A vacant path on the way meets no file, neither before it nor behind it. -/
theorem not_obstructed (hvacant : fs.Vacant above) (htidy : path.Tidy)
    (hmem : above ∈ path :: path.parents) : ¬ fs.Obstructed path := by
  rintro ⟨file, hfile, content, hread⟩
  obtain ⟨location, hresolve, hkind⟩ := readBytes_eq_ok_iff.mp hread
  obtain ⟨haccept, -, hwalk, -⟩ := resolve_eq_ok_iff.mp hresolve
  have habove := above_of_mem htidy hmem
  have hbeside := above_of_mem htidy hfile
  have hstart : fs.startOf file = fs.startOf above :=
    (startOf_eq_of_isPrefix fs hbeside.written (accept_eq_ok_iff.mp haccept).2.1).trans
      (startOf_eq_of_isPrefix fs habove.written hvacant.isEmpty_eq_false).symm
  rw [hstart] at hwalk
  rcases List.prefix_or_prefix_of_prefix habove.components hbeside.components with
    hbegins | ⟨rest, hrest⟩
  · simp [hvacant.walk_eq hbegins] at hwalk
  · have hnowhere := hvacant.walk_eq List.prefix_rfl
    rw [← hrest, walk_append, hwalk] at hnowhere
    by_cases hnil : rest = []
    · simp [hnil, bind, Except.bind, walk_nil] at hnowhere
    · simp [bind, Except.bind, walk_of_file hkind hnil] at hnowhere

end Vacant

/-! ## What a creation that breaks off leaves behind -/

theorem grows_ensureChain_cons (paths : List Path) (htidy : path.Tidy)
    (hne : path.isEmpty = false) (hmissing : fs.createDirectory path = .error .notFound) :
    (fs.ensureChain paths).2.Grows (fs.ensureChain (path :: paths)).2 := by
  rw [ensureChain, hne, hmissing]
  simp only [Bool.false_eq_true, if_false]
  split
  next fault changed hrest =>
    rw [hrest]
    exact .refl changed
  next changed hrest =>
    rw [hrest]
    split
    next complete hcomplete => exact (creates_ensureDirectory htidy hcomplete).1.grows
    next => exact .refl changed

theorem isDirectory_ensureChain_cons {paths : List Path} (htidy : path.Tidy)
    (hvacant : fs.Vacant path) : (fs.ensureChain (path :: paths)).2.isDirectory path = true := by
  obtain ⟨changed, hchanged⟩ := (vacant_iff_createDirectory htidy).mp hvacant
  rw [ensureChain, hvacant.isEmpty_eq_false, hchanged]
  exact (creates_createDirectory htidy hchanged).2

/-- Where a directory can be created on the way, it is. -/
theorem isDirectory_of_vacant (haccept : accept path = .ok ()) (htidy : path.Tidy)
    (hmem : above ∈ path :: path.parents) (hvacant : fs.Vacant above) :
    (fs.ensureChain (path :: path.parents)).2.isDirectory above = true := by
  induction path using inductionOnParent with
  | top path hparent =>
      rw [parents_of_none hparent] at hmem
      obtain rfl := List.mem_singleton.mp hmem
      exact isDirectory_ensureChain_cons htidy hvacant
  | below path parent hparent ih =>
      rcases List.mem_cons.mp hmem with rfl | hparents
      · exact isDirectory_ensureChain_cons htidy hvacant
      · have hmissing := hvacant.createDirectory_below haccept htidy hparents
        have hgrows := grows_ensureChain_cons path.parents htidy
          (accept_eq_ok_iff.mp haccept).2.1 hmissing
        rw [parents_of_some hparent] at hparents hgrows ⊢
        have hbegins := (above_of_mem (tidy_parent hparent) hparents).components
        have hne : parent.isEmpty = false := isEmpty_eq_false_of_components fun hnil =>
          hvacant.components_ne_nil (List.prefix_nil.mp (hnil ▸ hbegins))
        have hparentAccept := accept_of_isPrefix haccept (prefix_of_parent? hparent) hne
        exact hgrows.isDirectory (ih hparentAccept (tidy_parent hparent) hparents)

/-- A path that cannot be followed in any file system is not given up for want of something. -/
theorem accept_of_createDirectory (hne : path.isEmpty = false)
    (hmissing : fs.createDirectory path = .error .notFound) : accept path = .ok () := by
  cases haccept : accept path with
  | ok => rfl
  | error fault =>
      have hfault : fs.createDirectory path = .error fault := by
        rw [createDirectory, resolveLast, haccept]
        rfl
      obtain rfl : fault = .notFound := Except.error.inj (hfault.symm.trans hmissing)
      rw [accept, hne] at haccept
      split at haccept
      · contradiction
      · split at haccept
        · contradiction
        · split at haccept <;> contradiction

/-- A creation that breaks off leaves the file system as it was unless a directory above could
be created. -/
theorem createDirectories_eq_self_iff {fault : Fault} (htidy : path.Tidy)
    (hne : path.isEmpty = false) (hfails : fs.createDirectories path = (.error fault, after)) :
    after = fs ↔ ¬ (accept path = .ok () ∧ ∃ above ∈ path.parents, fs.Vacant above) := by
  rw [createDirectories] at hfails
  constructor
  · rintro rfl ⟨haccept, above, hmem, hvacant⟩
    have hmade := isDirectory_of_vacant haccept htidy (List.mem_cons_of_mem _ hmem) hvacant
    rw [hfails, hvacant.isDirectory_eq_false] at hmade
    contradiction
  · intro hnone
    rcases ensureChain_cons_eq_error hne hfails with ⟨-, -, -, hsame⟩ | ⟨hmissing, -⟩
    · exact hsame
    · have haccept := accept_of_createDirectory hne hmissing
      have hnever : ∀ other ∈ path :: path.parents, other.isEmpty = false →
          ∀ changed, fs.createDirectory other ≠ .ok changed := by
        intro other hmem _ changed hchanged
        rcases List.mem_cons.mp hmem with rfl | hparents
        · simp [hmissing] at hchanged
        · have htidyOther := (above_of_mem_parents hparents).tidy
          exact hnone ⟨haccept, other, hparents,
            (vacant_iff_createDirectory htidyOther).mpr ⟨changed, hchanged⟩⟩
      have hsame := ensureChain_eq_self hnever
      rwa [hfails] at hsame

/-- Where all names are short enough and none leads upwards, what breaks a creation off is seen
before anything is created. -/
theorem createDirectories_eq_self_of_usable {fault : Fault} (htidy : path.Tidy)
    (husable : Usable path) (hdownward : ".." ∉ path.components)
    (hfails : fs.createDirectories path = (.error fault, after)) : after = fs := by
  rw [createDirectories_eq_self_iff htidy husable.isEmpty hfails]
  rintro ⟨-, above, hmem, hvacant⟩
  have hstart : fs.kindAt? (fs.startOf path) = some .directory :=
    startOf_eq_of_isPrefix fs (above_of_mem_parents hmem).written hvacant.isEmpty_eq_false ▸
      hvacant.start
  have hobstructed := obstructed_of_ensureChain husable hstart htidy hfails
  have hgrows := (creates_ensureChain (tidy_of_mem htidy) fs).grows
  rw [createDirectories] at hfails
  rw [hfails] at hgrows
  exact hvacant.not_obstructed htidy (List.mem_cons_of_mem _ hmem)
    (obstructed_of_grows hgrows hdownward hobstructed)

end AssetMenu.FileSystem
