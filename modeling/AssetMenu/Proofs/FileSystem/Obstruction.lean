import AssetMenu.Proofs.FileSystem.Creation

/-!
# What stops the creation of directories

Where a directory is missing it is created, so the way to a directory can be
blocked in three ways only.  The path itself cannot be followed in any file system,
or it starts at nothing, or there is a file where a directory is needed.  This file
need not be in the way as long as directories are missing: two dots behind a new
directory may lead to it.
-/

namespace AssetMenu

open AssetMenu.Path

/-- A path that can be followed where everything it needs is there. -/
structure Usable (path : Path) : Prop where
  accepted : FileSystem.accept path = .ok ()
  short : ∀ name ∈ path.components, name.utf8ByteSize ≤ FileSystem.maxNameLength

theorem Usable.isEmpty {path : Path} (husable : Usable path) : path.isEmpty = false :=
  (FileSystem.accept_eq_ok_iff.mp husable.accepted).2.1

namespace FileSystem

variable {fs after : FileSystem} {path : Path} {location start : Location}
  {front : List String} {name : String}

/-! ## Files in the way -/

/-- A file stands where the path leads, or where one of the paths above it leads. -/
def Obstructed (fs : FileSystem) (path : Path) : Prop :=
  ∃ above ∈ path :: path.parents, ∃ content, fs.readBytes above = .ok content

/-- Among names that are short enough, a walk is stopped by a file or by nothing at all. -/
theorem exists_file_of_walk {names : List String} {fault : Fault}
    (hwalk : fs.walk start names = .error fault) (hfault : fault ≠ .notFound)
    (hshort : ∀ name ∈ names, name.utf8ByteSize ≤ maxNameLength) :
    ∃ reached, reached <+: names ∧ ∃ location content, fs.walk start reached = .ok location ∧
      fs.kindAt? location = some (.file content) := by
  induction names generalizing start with
  | nil => contradiction
  | cons name names ih =>
      obtain ⟨hname, hnames⟩ := List.forall_mem_cons.mp hshort
      rw [walk_cons] at hwalk
      cases hstep : fs.step start name with
      | error first =>
          rw [hstep] at hwalk
          obtain rfl := Except.error.inj hwalk
          obtain ⟨content, hcontent⟩ := exists_file_of_step hstep hfault hname
          exact ⟨[], List.nil_prefix, start, content, rfl, hcontent⟩
      | ok next =>
          rw [hstep] at hwalk
          obtain ⟨reached, hbegins, location, content, hreached, hcontent⟩ := ih hwalk hnames
          refine ⟨name :: reached, List.cons_prefix_cons.mpr ⟨rfl, hbegins⟩, location, content, ?_,
            hcontent⟩
          rw [walk_cons, hstep]
          exact hreached

/-- A file on the way is found at the end of one of the paths above. -/
theorem obstructed_of_walk {reached : List String} {content : ByteArray}
    (haccept : accept path = .ok ()) (hstart : fs.kindAt? (fs.startOf path) = some .directory)
    (htidy : path.Tidy) (hbegins : reached <+: path.components)
    (hwalk : fs.walk (fs.startOf path) reached = .ok location)
    (hfile : fs.kindAt? location = some (.file content)) : Obstructed fs path := by
  by_cases hsame : reached = path.components
  · refine ⟨path, List.mem_cons_self, content, readBytes_eq_ok_iff.mpr ⟨location, ?_, hfile⟩⟩
    exact resolve_eq_ok_iff.mpr ⟨haccept, hstart, hsame ▸ hwalk, Or.inl htidy⟩
  · have hnil : reached ≠ [] := by
      rintro rfl
      obtain rfl := Except.ok.inj hwalk
      simp [hstart] at hfile
    obtain ⟨above, hmem, hcomponents⟩ := exists_mem_parents hbegins hsame hnil
    have habove := above_of_mem_parents hmem
    have hne : above.isEmpty = false := isEmpty_eq_false_of_components (hcomponents ▸ hnil)
    have hstartOf := startOf_eq_of_isPrefix fs habove.written hne
    refine ⟨above, List.mem_cons_of_mem _ hmem, content,
      readBytes_eq_ok_iff.mpr ⟨location, ?_, hfile⟩⟩
    rw [resolve_eq_ok_iff, hstartOf, hcomponents]
    exact ⟨accept_of_isPrefix haccept habove.written hne, hstart, hwalk, Or.inl habove.tidy⟩

/-- In a directory that is there, a short name can only be taken. -/
theorem exists_walk_of_createDirectory {fault : Fault} (husable : Usable path)
    (hstart : fs.kindAt? (fs.startOf path) = some .directory) (htidy : path.Tidy)
    (hcomponents : path.components = front ++ [name])
    (hwalk : fs.walk (fs.startOf path) front = .ok location)
    (hkind : fs.kindAt? location = some .directory)
    (hfault : fs.createDirectory path = .error fault) :
    ∃ next, fs.walk (fs.startOf path) path.components = .ok next := by
  have hblank : isBlank name.toList ≠ true := by simp [isBlank_last hcomponents]
  have hlook : fs.step location "" = .ok location := step_of_isBlank hkind rfl
  have hlast : fs.walk (fs.startOf path) path.components = fs.step location name := by
    rw [hcomponents, walk_concat, hwalk]
    rfl
  rw [createDirectory_eq husable.accepted hstart htidy hcomponents, hwalk] at hfault
  simp only [bind, Except.bind, hlook] at hfault
  simp only [hlast, step_eq_ok_iff, if_neg hblank]
  split at hfault
  next hparent =>
    refine ⟨location.dropLast, hkind, ?_⟩
    rw [if_pos hparent]
  next hparent =>
    split at hfault
    next hlong =>
      have hshort := husable.short name (by simp [hcomponents])
      omega
    next hshort =>
      split at hfault
      next htaken =>
        refine ⟨location ++ [name], hkind, ?_⟩
        rw [if_neg hparent]
        exact ⟨Nat.not_lt.mp hshort, Option.isSome_iff_ne_none.mp htaken, rfl⟩
      next => contradiction

/-- If a directory cannot be created, and not for want of the one above it, then it is there
already or a file is in the way. -/
theorem obstructed_of_createDirectory {fault : Fault} (husable : Usable path)
    (hstart : fs.kindAt? (fs.startOf path) = some .directory) (htidy : path.Tidy)
    (hfault : fs.createDirectory path = .error fault) (hmissing : fs.isDirectory path = false)
    (habove : fault = .notFound → ∃ location,
      fs.walk (fs.startOf path) path.components.dropLast = .ok location ∧
        fs.kindAt? location = some .directory) :
    Obstructed fs path := by
  have hnowhere : ∀ location, fs.walk (fs.startOf path) path.components = .ok location →
      fs.kindAt? location ≠ some .directory := by
    intro location hwalk hkind
    rw [Bool.eq_false_iff, Ne, isDirectory_iff_components] at hmissing
    exact hmissing ⟨husable.accepted, hstart, location, hwalk, hkind⟩
  have hsome : ∀ {front : List String} {location : Location},
      fs.walk (fs.startOf path) front = .ok location → ∃ kind, fs.kindAt? location = some kind :=
    fun hwalk => Option.ne_none_iff_exists'.mp (kindAt?_of_walk (by simp [hstart]) hwalk)
  rcases List.eq_nil_or_concat path.components with hnil | ⟨front, name, hcomponents⟩
  · exact absurd hstart (hnowhere _ (by rw [hnil, walk_nil]))
  rw [List.concat_eq_append] at hcomponents
  have hfront : front <+: path.components := hcomponents ▸ List.prefix_append front [name]
  cases hwalk : fs.walk (fs.startOf path) front with
  | error first =>
      rw [hcomponents, List.dropLast_concat, hwalk] at habove
      rw [createDirectory_eq husable.accepted hstart htidy hcomponents, hwalk] at hfault
      obtain rfl := Except.error.inj hfault
      have hfirst : first ≠ .notFound := fun hnotFound => by simpa using habove hnotFound
      have hshort := fun name hname => husable.short name (hfront.subset hname)
      obtain ⟨reached, hreached, location, content, hlocation, hfile⟩ :=
        exists_file_of_walk hwalk hfirst hshort
      exact obstructed_of_walk husable.accepted hstart htidy (hreached.trans hfront) hlocation hfile
  | ok location =>
      obtain ⟨kind, hkind⟩ := hsome hwalk
      cases kind with
      | file content => exact obstructed_of_walk husable.accepted hstart htidy hfront hwalk hkind
      | directory =>
          obtain ⟨next, hnext⟩ :=
            exists_walk_of_createDirectory husable hstart htidy hcomponents hwalk hkind hfault
          obtain ⟨kind, hkind⟩ := hsome hnext
          cases kind with
          | directory => exact absurd hkind (hnowhere next hnext)
          | file content =>
              exact obstructed_of_walk husable.accepted hstart htidy List.prefix_rfl hnext hkind

theorem usable_of_above {above : Path} (husable : Usable path) (habove : Above above path)
    (hne : above.isEmpty = false) : Usable above where
  accepted := accept_of_isPrefix husable.accepted habove.written hne
  short name hname := husable.short name (habove.components.subset hname)

/-- Once the path above is made, nothing but a file keeps a directory from being made. -/
theorem obstructed_of_ensureDirectory {parent : Path} {fault : Fault} (husable : Usable path)
    (hstart : fs.kindAt? (fs.startOf path) = some .directory) (htidy : path.Tidy)
    (hparent : path.parent? = some parent)
    (hmade : parent.isEmpty = false → fs.isDirectory parent = true)
    (hfault : fs.ensureDirectory path = .error fault) : Obstructed fs path := by
  rw [ensureDirectory] at hfault
  split at hfault
  · contradiction
  next first hfirst =>
    split at hfault
    · contradiction
    next hmissing =>
      refine obstructed_of_createDirectory husable hstart htidy hfirst (by simpa using hmissing)
        fun _ => ?_
      rcases components_parent hparent with ⟨hnone, -⟩ | ⟨name, hname⟩
      · exact ⟨fs.startOf path, by rw [hnone]; rfl, hstart⟩
      · rw [hname, List.dropLast_concat]
        cases hempty : parent.isEmpty with
        | true =>
            rw [isEmpty_eq_true_iff] at hempty
            exact ⟨fs.startOf path, by rw [hempty]; rfl, hstart⟩
        | false =>
            have hdirectory := hmade hempty
            rw [isDirectory_iff_components,
              startOf_eq_of_isPrefix fs (prefix_of_parent? hparent) hempty] at hdirectory
            exact hdirectory.2.2

/-- Where the creation breaks off: at the path itself, on the way to it, or at the path once the
directories above it are made. -/
theorem ensureChain_cons_eq_error {above : List Path} {fault : Fault}
    (hne : path.isEmpty = false)
    (hchain : fs.ensureChain (path :: above) = (.error fault, after)) :
    (fs.createDirectory path = .error fault ∧ fault ≠ .notFound ∧ fs.isDirectory path = false ∧
        after = fs) ∨
      fs.createDirectory path = .error .notFound ∧
        (fs.ensureChain above = (.error fault, after) ∨
          fs.ensureChain above = (.ok (), after) ∧ after.ensureDirectory path = .error fault) := by
  rw [ensureChain, hne] at hchain
  simp only [Bool.false_eq_true, if_false] at hchain
  split at hchain
  · simp at hchain
  next hmissing =>
    refine Or.inr ⟨hmissing, ?_⟩
    split at hchain
    next first changed hrest =>
      obtain ⟨hfault, rfl⟩ := Prod.mk.inj hchain
      obtain rfl := Except.error.inj hfault
      exact Or.inl hrest
    next changed hrest =>
      split at hchain
      · simp at hchain
      next first hfirst =>
        obtain ⟨hfault, rfl⟩ := Prod.mk.inj hchain
        obtain rfl := Except.error.inj hfault
        exact Or.inr ⟨hrest, hfirst⟩
  next first hnotFound hfirst =>
    split at hchain
    · simp at hchain
    next hmissing =>
      obtain ⟨hfault, rfl⟩ := Prod.mk.inj hchain
      obtain rfl := Except.error.inj hfault
      exact Or.inl ⟨hfirst, hnotFound, by simpa using hmissing, rfl⟩

/-- If the creation breaks off on a usable path, a file is in the way. -/
theorem obstructed_of_ensureChain {fault : Fault} (husable : Usable path)
    (hstart : fs.kindAt? (fs.startOf path) = some .directory) (htidy : path.Tidy)
    (hchain : fs.ensureChain (path :: path.parents) = (.error fault, after)) :
    Obstructed after path := by
  induction path using inductionOnParent with
  | top path hparent =>
      have htaken := createDirectory_of_components_eq_nil husable.accepted hstart
        (components_eq_nil_of_parent?_eq_none hparent)
      rcases ensureChain_cons_eq_error husable.isEmpty hchain with
        ⟨hfault, hnotFound, hmissing, rfl⟩ | ⟨hfault, -⟩
      · exact obstructed_of_createDirectory husable hstart htidy hfault hmissing
          fun hfirst => absurd hfirst hnotFound
      · simp [htaken] at hfault
  | below path parent hparent ih =>
      rw [parents_of_some hparent] at hchain
      have habove := above_parent hparent
      rcases ensureChain_cons_eq_error husable.isEmpty hchain with
        ⟨hfault, hnotFound, hmissing, rfl⟩ | ⟨-, hrest | ⟨hrest, hfault⟩⟩
      · exact obstructed_of_createDirectory husable hstart htidy hfault hmissing
          fun hfirst => absurd hfirst hnotFound
      · cases hempty : parent.isEmpty with
        | true => simp [ensureChain, hempty] at hrest
        | false =>
            have hstartOf := startOf_eq_of_isPrefix fs habove.written hempty
            obtain ⟨file, hfile, hcontent⟩ := ih (usable_of_above husable habove hempty)
              (hstartOf ▸ hstart) habove.tidy hrest
            refine ⟨file, List.mem_cons_of_mem _ ?_, hcontent⟩
            rwa [parents_of_some hparent]
      · have hgrows := (creates_ensureChain (tidy_of_mem habove.tidy) fs).grows
        rw [hrest] at hgrows
        refine obstructed_of_ensureDirectory husable ?_ htidy hparent
          (fun hempty => isDirectory_of_ensureChain habove.tidy hempty hrest) hfault
        rw [hgrows.startOf_eq]
        exact hgrows.kindAt?_eq_some hstart

/-- Where none of the paths can be created as they are, nothing is. -/
theorem ensureChain_eq_self {paths : List Path}
    (hnever : ∀ path ∈ paths, path.isEmpty = false →
      ∀ changed, fs.createDirectory path ≠ .ok changed) :
    (fs.ensureChain paths).2 = fs := by
  induction paths with
  | nil => rfl
  | cons path above ih =>
      obtain ⟨hpath, habove⟩ := List.forall_mem_cons.mp hnever
      rw [ensureChain]
      split
      · rfl
      next hempty =>
        have hne : path.isEmpty = false := by simpa using hempty
        split
        next changed hchanged => exact absurd hchanged (hpath hne changed)
        next =>
          have hrest := ih habove
          split
          next changed heq => simpa [heq] using hrest
          next changed heq =>
            rw [heq] at hrest
            obtain rfl : changed = fs := hrest
            split
            next complete hcomplete =>
              rw [ensureDirectory] at hcomplete
              split at hcomplete
              next hchanged => exact absurd hchanged (hpath hne _)
              next =>
                split at hcomplete
                · exact (Except.ok.inj hcomplete).symm
                · contradiction
            next => rfl
        next => split <;> rfl

/-- Where relative paths start at nothing, nothing is created. -/
theorem ensureChain_of_stranded {paths : List Path}
    (hstranded : ∀ path ∈ paths, path.isEmpty = false →
      fs.kindAt? (fs.startOf path) ≠ some .directory) :
    (fs.ensureChain paths).2 = fs := by
  apply ensureChain_eq_self
  intro path hmem hne changed hchanged
  obtain ⟨found, hfound, -⟩ := bind_eq_ok_iff.mp hchanged
  exact hstranded path hmem hne (kindAt?_startOf_of_resolveLast hfound).2

/-- A path to a directory meets no file. -/
theorem not_obstructed_of_isDirectory (hdirectory : fs.isDirectory path = true) :
    ¬ fs.Obstructed path := by
  rintro ⟨above, hmem, content, hcontent⟩
  obtain ⟨location, hresolve, hfile⟩ := readBytes_eq_ok_iff.mp hcontent
  obtain ⟨haccept, -, hwalk, -⟩ := resolve_eq_ok_iff.mp hresolve
  obtain ⟨-, -, last, hlast, hkind⟩ := isDirectory_iff_components.mp hdirectory
  have habove : above.text.toList <+: path.text.toList ∧ above.components <+: path.components := by
    rcases List.mem_cons.mp hmem with rfl | hparents
    · exact ⟨List.prefix_rfl, List.prefix_rfl⟩
    · have habove := above_of_mem_parents hparents
      exact ⟨habove.written, habove.components⟩
  obtain ⟨rest, hrest⟩ := habove.2
  rw [startOf_eq_of_isPrefix fs habove.1 (accept_eq_ok_iff.mp haccept).2.1] at hwalk
  rw [← hrest, walk_append, hwalk] at hlast
  by_cases hnil : rest = []
  · subst hnil
    obtain rfl := Except.ok.inj hlast
    simp [hfile] at hkind
  · have hstop := walk_of_file hfile hnil
    simp [bind, Except.bind, hstop] at hlast

theorem usable_of_isDirectory (hdirectory : fs.isDirectory path = true) : Usable path := by
  obtain ⟨haccept, -, location, hwalk, -⟩ := isDirectory_iff_components.mp hdirectory
  exact ⟨haccept, short_of_walk hwalk⟩

/-- Without two dots, a file that is in the way was in the way from the start. -/
theorem obstructed_of_grows {before : FileSystem} (hgrows : Grows before after)
    (hdownward : ".." ∉ path.components) (hobstructed : after.Obstructed path) :
    before.Obstructed path := by
  obtain ⟨above, hmem, content, hcontent⟩ := hobstructed
  refine ⟨above, hmem, content, hgrows.readBytes_of_downward (fun hdots => hdownward ?_) hcontent⟩
  rcases List.mem_cons.mp hmem with rfl | hparents
  · exact hdots
  · exact (above_of_mem_parents hparents).components.subset hdots

/-- Directories are created to the end exactly if the path is usable, starts at a directory,
and meets no file in the tree that the creation leaves. -/
theorem createDirectories_eq_ok_iff (htidy : path.Tidy) (hne : path.isEmpty = false) :
    (fs.createDirectories path).1 = .ok () ↔
      Usable path ∧ fs.kindAt? (fs.startOf path) = some .directory ∧
        ¬ (fs.createDirectories path).2.Obstructed path := by
  rw [createDirectories]
  rcases hchain : fs.ensureChain (path :: path.parents) with ⟨fault | _, after⟩
  · simp only [reduceCtorEq, false_iff, not_and, not_not]
    intro husable hstart
    exact obstructed_of_ensureChain husable hstart htidy hchain
  · have hdirectory := isDirectory_of_ensureChain htidy hne hchain
    refine ⟨fun _ => ⟨usable_of_isDirectory hdirectory, ?_,
      not_obstructed_of_isDirectory hdirectory⟩, fun _ => rfl⟩
    by_contra hstranded
    have hsame : (fs.ensureChain (path :: path.parents)).2 = fs := by
      refine ensureChain_of_stranded fun above hmem habove => ?_
      rcases List.mem_cons.mp hmem with rfl | hparents
      · exact hstranded
      · rwa [startOf_eq_of_isPrefix fs (above_of_mem_parents hparents).written habove]
    rw [hchain] at hsame
    obtain rfl : after = fs := hsame
    exact hstranded (isDirectory_iff_components.mp hdirectory).2.1

end FileSystem

end AssetMenu
