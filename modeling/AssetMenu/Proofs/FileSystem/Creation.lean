import AssetMenu.Proofs.FileSystem.Standing

/-!
# Creating directories

A directory is created at the place that its path leads to, in the directory that
the path above it leads to.  If several are missing, each is created once the ones
above it are.  However far this comes, it only adds directories, and each of them
is one that the path or a path above it leads to afterwards.
-/

namespace AssetMenu

open AssetMenu.Path

namespace FileSystem

variable {fs changed after : FileSystem} {path : Path} {location start : Location}
  {front : List String} {name : String}

/-! ## One directory -/

theorem createDirectory_of_components_eq_nil (haccept : accept path = .ok ())
    (hstart : fs.kindAt? (fs.startOf path) = some .directory)
    (hcomponents : path.components = []) :
    fs.createDirectory path = .error .alreadyExists := by
  obtain ⟨last, hlast, hspecial⟩ := resolveLast_of_components_eq_nil haccept hstart hcomponents
  rw [createDirectory, hlast]
  simp only [bind, Except.bind, hspecial, if_true]

/-- A path with components is created where its last component is free. -/
theorem createDirectory_eq (haccept : accept path = .ok ())
    (hstart : fs.kindAt? (fs.startOf path) = some .directory) (htidy : path.Tidy)
    (hcomponents : path.components = front ++ [name]) :
    fs.createDirectory path =
      fs.walk (fs.startOf path) front >>= fun location =>
        fs.step location "" >>= fun location =>
          if name = ".." then .error .alreadyExists
          else if maxNameLength < name.utf8ByteSize then .error .nameTooLong
          else if (fs.kindAt? (location ++ [name])).isSome then .error .alreadyExists
          else .ok (fs.put (location ++ [name]) (.directory [])) := by
  have hspecial := isSpecial_last hcomponents
  rw [createDirectory, resolveLast_eq haccept hstart htidy hcomponents, bind_assoc]
  congr 1
  funext location
  rw [bind_assoc]
  congr 1
  funext location
  simp only [bind, Except.bind, hspecial, kindAt?_eq_map, Option.isSome_map]

/-- A directory is created at the one place that its path can lead to, where nothing stands. -/
theorem StandsIn.createDirectory_eq (hstands : fs.StandsIn path location name) :
    fs.createDirectory path =
      if (fs.kindAt? (location ++ [name])).isSome then .error .alreadyExists
      else .ok (fs.put (location ++ [name]) (.directory [])) := by
  rw [createDirectory, hstands.resolveLast_eq]
  simp only [bind, Except.bind, hstands.isSpecial_eq_false, Bool.false_eq_true, if_false,
    if_neg (Nat.not_lt.mpr hstands.short), kindAt?_eq_map, Option.isSome_map]

theorem createDirectory_eq_ok_iff (htidy : path.Tidy) :
    fs.createDirectory path = .ok changed ↔
      ∃ location name, fs.StandsIn path location name ∧
        fs.kindAt? (location ++ [name]) = none ∧
        changed = fs.put (location ++ [name]) (.directory []) := by
  constructor
  · intro hchanged
    obtain ⟨⟨location, name⟩, hfound, hcreate⟩ := bind_eq_ok_iff.mp hchanged
    simp only at hcreate
    split at hcreate
    · contradiction
    next hspecial =>
      split at hcreate
      · contradiction
      next hshort =>
        have hstands := standsIn_of_resolveLast htidy hfound (by simpa using hspecial)
          (Nat.not_lt.mp hshort)
        rw [hstands.createDirectory_eq] at hchanged
        split at hchanged
        · contradiction
        next hfree =>
          exact ⟨location, name, hstands, Option.not_isSome_iff_eq_none.mp hfree,
            (Except.ok.inj hchanged).symm⟩
  · rintro ⟨location, name, hstands, hfree, rfl⟩
    rw [hstands.createDirectory_eq, hfree]
    rfl

/-- The paths whose directories were created lead to all that is new. -/
structure Creates (before : FileSystem) (paths : List Path) (after : FileSystem) : Prop where
  grows : Grows before after
  new : ∀ location, before.kindAt? location = none → after.kindAt? location ≠ none →
    ∃ path ∈ paths, after.resolve path = .ok location

theorem creates_refl (fs : FileSystem) (paths : List Path) : Creates fs paths fs :=
  ⟨.refl fs, fun _ hnone hsome => absurd hnone hsome⟩

theorem Creates.trans {before middle after : FileSystem} {paths : List Path}
    (hfirst : Creates before paths middle) (hsecond : Creates middle paths after) :
    Creates before paths after where
  grows := hfirst.grows.trans hsecond.grows
  new location hnone hsome := by
    by_cases hmiddle : middle.kindAt? location = none
    · exact hsecond.new location hmiddle hsome
    · obtain ⟨path, hpath, hresolve⟩ := hfirst.new location hnone hmiddle
      exact ⟨path, hpath, hsecond.grows.resolve hresolve⟩

theorem Creates.mono {before after : FileSystem} {paths more : List Path}
    (hcreates : Creates before paths after) (hsubset : paths ⊆ more) :
    Creates before more after where
  grows := hcreates.grows
  new location hnone hsome := by
    obtain ⟨path, hpath, hresolve⟩ := hcreates.new location hnone hsome
    exact ⟨path, hsubset hpath, hresolve⟩

theorem creates_createDirectory (htidy : path.Tidy)
    (hchanged : fs.createDirectory path = .ok changed) :
    Creates fs [path] changed ∧ changed.isDirectory path = true := by
  obtain ⟨location, name, hstands, hfree, rfl⟩ := (createDirectory_eq_ok_iff htidy).mp hchanged
  have hold : fs.kindAt? (location ++ [name]) ≠ some .directory := by simp [hfree]
  have hput := kindAt?_put Entry.isLeaf_directory hstands.parent hold
  have hgrows := grows_put hstands.parent hfree
  have hkind : (fs.put (location ++ [name]) (.directory [])).kindAt? (location ++ [name]) =
      some .directory := by
    rw [hput, if_pos rfl]
    rfl
  have hplace := hstands.keep hgrows.keepsWays
  refine ⟨⟨hgrows, fun other hnone hsome => ?_⟩, hplace.isDirectory_iff.mpr hkind⟩
  refine ⟨path, List.mem_singleton_self path, ?_⟩
  rw [hput] at hsome
  split at hsome
  next hother => exact hplace.resolve_eq_ok_iff.mpr ⟨hother, by simp [hother, hkind]⟩
  next => exact absurd hnone hsome

theorem creates_ensureDirectory (htidy : path.Tidy)
    (hchanged : fs.ensureDirectory path = .ok changed) :
    Creates fs [path] changed ∧ changed.isDirectory path = true := by
  rw [ensureDirectory] at hchanged
  split at hchanged
  next created hcreated =>
    obtain rfl := Except.ok.inj hchanged
    exact creates_createDirectory htidy hcreated
  next =>
    split at hchanged
    next hdirectory =>
      obtain rfl := Except.ok.inj hchanged
      exact ⟨creates_refl _ _, hdirectory⟩
    next => contradiction

/-! ## All that are missing -/

theorem above_of_mem {above : Path} (htidy : path.Tidy) (hmem : above ∈ path :: path.parents) :
    Above above path := by
  rcases List.mem_cons.mp hmem with rfl | hparents
  · exact .refl htidy
  · exact above_of_mem_parents hparents

theorem tidy_of_mem (htidy : path.Tidy) : ∀ above ∈ path :: path.parents, above.Tidy :=
  fun _ hmem => (above_of_mem htidy hmem).tidy

/-- However far the creation comes, it only adds directories that the paths name. -/
theorem creates_ensureChain {paths : List Path} (htidy : ∀ path ∈ paths, path.Tidy)
    (fs : FileSystem) : Creates fs paths (fs.ensureChain paths).2 := by
  induction paths generalizing fs with
  | nil => exact creates_refl fs []
  | cons path above ih =>
      obtain ⟨hpath, habove⟩ := List.forall_mem_cons.mp htidy
      have hfirst : [path] ⊆ path :: above := List.cons_subset_cons path (List.nil_subset above)
      rw [ensureChain]
      split
      · exact creates_refl fs _
      split
      next created hcreated =>
        exact (creates_createDirectory hpath hcreated).1.mono hfirst
      next =>
        have hchain := (ih habove fs).mono (List.subset_cons_self path above)
        split
        next fault changed hrest => simpa [hrest] using hchain
        next changed hrest =>
          rw [hrest] at hchain
          split
          next complete hcomplete =>
            exact hchain.trans ((creates_ensureDirectory hpath hcomplete).1.mono hfirst)
          next => exact hchain
      next =>
        split
        · exact creates_refl fs _
        · exact creates_refl fs _

/-- If the creation comes to its end, there is the directory that was asked for. -/
theorem isDirectory_of_ensureChain {above : List Path} (htidy : path.Tidy)
    (hne : path.isEmpty = false) (hchain : fs.ensureChain (path :: above) = (.ok (), after)) :
    after.isDirectory path = true := by
  rw [ensureChain, hne] at hchain
  simp only [Bool.false_eq_true, if_false] at hchain
  split at hchain
  next created hcreated =>
    obtain ⟨-, rfl⟩ := Prod.mk.inj hchain
    exact (creates_createDirectory htidy hcreated).2
  next =>
    split at hchain
    · simp at hchain
    next changed hrest =>
      split at hchain
      next complete hcomplete =>
        obtain ⟨-, rfl⟩ := Prod.mk.inj hchain
        exact (creates_ensureDirectory htidy hcomplete).2
      next => simp at hchain
  next =>
    split at hchain
    next hdirectory =>
      obtain ⟨-, rfl⟩ := Prod.mk.inj hchain
      exact hdirectory
    next => simp at hchain

end FileSystem

end AssetMenu
