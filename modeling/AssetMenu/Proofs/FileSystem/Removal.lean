import AssetMenu.Proofs.FileSystem.Tree

/-!
# Taking a file away again

What is put into a directory under a name that is free there, and is taken away
afterwards, leaves no trace: not only stands the same everywhere, but the tree is the
same one.  Putting and taking away both alter one directory and copy the way to it, so
what they do one after the other is told by what they do to that directory.
-/

namespace AssetMenu

namespace Entry

/-- The tree in which what stands at a place is altered. -/
def alter : Location → (Entry → Entry) → Entry → Entry
  | [], change, entry => change entry
  | _ :: _, _, .file content => .file content
  | name :: rest, change, .directory children =>
      match children.lookup name with
      | some child => .directory (replaceChild name (alter rest change child) children)
      | none => .directory children

variable {location : Location} {name temporary : String} {first second : Entry → Entry}
  {children : List (String × Entry)}

/-! ## Children -/

theorem lookup_replaceChild_self {old : Entry} (new : Entry)
    (hold : children.lookup name = some old) :
    (replaceChild name new children).lookup name = some new := by
  rw [lookup_replaceChild, hold]
  simp

theorem replaceChild_replaceChild (name : String) (new old : Entry)
    (children : List (String × Entry)) :
    replaceChild name new (replaceChild name old children) = replaceChild name new children := by
  induction children with
  | nil => rfl
  | cons child children ih =>
      obtain ⟨present, entry⟩ := child
      by_cases hname : name = present
      · simp [replaceChild, hname]
      · simp [replaceChild, hname, ih]

theorem replaceChild_self {old : Entry} (hold : children.lookup name = some old) :
    replaceChild name old children = children := by
  induction children with
  | nil => rfl
  | cons child children ih =>
      obtain ⟨present, entry⟩ := child
      rw [lookup_cons_eq_ite] at hold
      by_cases hname : name = present
      · rw [if_pos hname] at hold
        simp [replaceChild, hname, Option.some.inj hold]
      · rw [if_neg hname] at hold
        simp [replaceChild, hname, ih hold]

theorem replaceChild_append {old : Entry} (new : Entry) (hold : children.lookup name = some old)
    (more : List (String × Entry)) :
    replaceChild name new (children ++ more) = replaceChild name new children ++ more := by
  induction children with
  | nil => contradiction
  | cons child children ih =>
      obtain ⟨present, entry⟩ := child
      rw [lookup_cons_eq_ite] at hold
      by_cases hname : name = present
      · simp [replaceChild, hname]
      · rw [if_neg hname] at hold
        simp [replaceChild, hname, ih hold]

/-- Without the children of a name that there is none of, nothing is missing. -/
theorem filter_ne_eq_self (hfree : children.lookup temporary = none) :
    (children.filter fun child => child.1 != temporary) = children := by
  rw [List.filter_eq_self]
  intro child hchild
  have hother := bne_iff_ne.mp (List.lookup_eq_none_iff.mp hfree child hchild)
  exact bne_iff_ne.mpr hother.symm

/-! ## One directory -/

theorem remove_put_child (new : Entry) (hfree : children.lookup temporary = none) :
    remove [temporary] (put [temporary] new (.directory children)) = .directory children := by
  simp [put, remove, hfree, List.filter_append, filter_ne_eq_self hfree]

/-- What is put beside it in the meantime stays. -/
theorem remove_put_put_child (new other : Entry) (hfree : children.lookup temporary = none)
    (hne : name ≠ temporary) :
    remove [temporary] (put [name] new (put [temporary] other (.directory children))) =
      put [name] new (.directory children) := by
  have hput : put [temporary] other (.directory children) =
      .directory (children ++ [(temporary, other)]) := by
    simp [put, hfree]
  have hlookup : (children ++ [(temporary, other)]).lookup name = children.lookup name := by
    rw [lookup_append_new name other hfree, if_neg hne]
  rw [hput]
  cases hname : children.lookup name with
  | none =>
      simp [put, remove, hlookup, hname, List.filter_append, filter_ne_eq_self hfree, hne]
  | some old =>
      have hstill : (replaceChild name new children).lookup temporary = none := by
        rw [lookup_replaceChild, if_neg fun hboth => hne hboth.1.symm, hfree]
      simp [put, remove, hlookup, hname, replaceChild_append new hname, List.filter_append,
        filter_ne_eq_self hstill]

/-! ## The way to it -/

theorem put_concat (location : Location) (name : String) (new entry : Entry) :
    put (location ++ [name]) new entry = alter location (put [name] new) entry := by
  induction location generalizing entry with
  | nil => rfl
  | cons first rest ih =>
      cases entry with
      | file content => rfl
      | directory children =>
          cases hchild : children.lookup first with
          | none => cases rest <;> simp [put, alter, hchild]
          | some child => simp [put, alter, hchild, ih]

theorem remove_concat (location : Location) (name : String) (entry : Entry) :
    remove (location ++ [name]) entry = alter location (remove [name]) entry := by
  induction location generalizing entry with
  | nil => rfl
  | cons first rest ih =>
      cases entry with
      | file content => rfl
      | directory children =>
          cases hchild : children.lookup first with
          | none => cases rest <;> simp [remove, alter, hchild]
          | some child =>
              have hrest := ih child
              cases rest <;> simp_all [remove, alter]

theorem alter_alter (location : Location) (first second : Entry → Entry) (entry : Entry) :
    alter location second (alter location first entry) =
      alter location (fun found => second (first found)) entry := by
  induction location generalizing entry with
  | nil => rfl
  | cons name rest ih =>
      cases entry with
      | file content => rfl
      | directory children =>
          cases hchild : children.lookup name with
          | none => simp [alter, hchild]
          | some child =>
              simp [alter, hchild, lookup_replaceChild_self _ hchild, replaceChild_replaceChild, ih]

/-- It matters only what is done to what stands at the place. -/
theorem alter_congr {entry : Entry}
    (hsame : ∀ found, entry.at? location = some found → first found = second found) :
    alter location first entry = alter location second entry := by
  induction location generalizing entry with
  | nil => exact hsame entry rfl
  | cons name rest ih =>
      cases entry with
      | file content => rfl
      | directory children =>
          rw [alter, alter]
          cases hchild : children.lookup name with
          | none => rfl
          | some child =>
              have hrest : ∀ found, child.at? rest = some found → first found = second found :=
                fun found hfound => hsame found (by simp [at?, hchild, hfound])
              exact congrArg (fun entry => directory (replaceChild name entry _)) (ih hrest)

theorem alter_id (location : Location) (entry : Entry) : alter location id entry = entry := by
  induction location generalizing entry with
  | nil => rfl
  | cons name rest ih =>
      cases entry with
      | file content => rfl
      | directory children =>
          rw [alter]
          cases hchild : children.lookup name with
          | none => rfl
          | some child => simp only [ih, replaceChild_self hchild]

/-- A change that leaves directories directories leaves the top a directory. -/
theorem exists_alter_eq_directory
    (hchange : ∀ children, ∃ changed, first (.directory children) = .directory changed)
    (location : Location) (children : List (String × Entry)) :
    ∃ changed, alter location first (.directory children) = .directory changed := by
  cases location with
  | nil => exact hchange children
  | cons name rest =>
      rw [alter]
      cases children.lookup name with
      | none => exact ⟨_, rfl⟩
      | some child => exact ⟨_, rfl⟩

theorem exists_put_eq_directory (location : Location) (name : String) (new : Entry)
    (children : List (String × Entry)) :
    ∃ changed, put (location ++ [name]) new (.directory children) = .directory changed := by
  rw [put_concat]
  apply exists_alter_eq_directory
  intro children
  cases hchild : children.lookup name <;> simp [put, hchild]

theorem exists_remove_eq_directory (location : Location) (name : String)
    (children : List (String × Entry)) :
    ∃ changed, remove (location ++ [name]) (.directory children) = .directory changed := by
  rw [remove_concat]
  apply exists_alter_eq_directory
  intro children
  exact ⟨_, rfl⟩

/-! ## There and back -/

theorem lookup_eq_none_of_kindAt? {entry : Entry}
    (hat : entry.at? location = some (.directory children))
    (hfree : entry.kindAt? (location ++ [temporary]) = none) :
    children.lookup temporary = none := by
  rw [kindAt?_append, hat, Option.bind_some, kindAt?_cons_directory] at hfree
  cases hchild : children.lookup temporary with
  | none => rfl
  | some child => simp [hchild, kindAt?_nil] at hfree

variable {entry : Entry}

theorem exists_directory_of_kindAt? (hparent : entry.kindAt? location = some .directory) :
    ∃ children, entry.at? location = some (.directory children) := by
  obtain ⟨found, hfound, hkind⟩ := Option.map_eq_some_iff.mp hparent
  cases found with
  | file content => contradiction
  | directory children => exact ⟨children, hfound⟩

theorem remove_put (new : Entry) (hparent : entry.kindAt? location = some .directory)
    (hfree : entry.kindAt? (location ++ [temporary]) = none) :
    remove (location ++ [temporary]) (put (location ++ [temporary]) new entry) = entry := by
  obtain ⟨children, hat⟩ := exists_directory_of_kindAt? hparent
  have hlookup := lookup_eq_none_of_kindAt? hat hfree
  calc remove (location ++ [temporary]) (put (location ++ [temporary]) new entry)
      = alter location (fun found => remove [temporary] (put [temporary] new found)) entry := by
        rw [put_concat, remove_concat, alter_alter]
    _ = alter location id entry := by
        apply alter_congr
        intro found hfound
        obtain rfl := Option.some.inj (hfound.symm.trans hat)
        exact remove_put_child new hlookup
    _ = entry := alter_id location entry

theorem remove_put_put (new other : Entry) (hparent : entry.kindAt? location = some .directory)
    (hfree : entry.kindAt? (location ++ [temporary]) = none) (hne : name ≠ temporary) :
    remove (location ++ [temporary])
        (put (location ++ [name]) new (put (location ++ [temporary]) other entry)) =
      put (location ++ [name]) new entry := by
  obtain ⟨children, hat⟩ := exists_directory_of_kindAt? hparent
  have hlookup := lookup_eq_none_of_kindAt? hat hfree
  calc remove (location ++ [temporary])
        (put (location ++ [name]) new (put (location ++ [temporary]) other entry))
      = alter location (fun found =>
          remove [temporary] (put [name] new (put [temporary] other found))) entry := by
        rw [put_concat, put_concat, remove_concat, alter_alter, alter_alter]
    _ = alter location (put [name] new) entry := by
        apply alter_congr
        intro found hfound
        obtain rfl := Option.some.inj (hfound.symm.trans hat)
        exact remove_put_put_child new other hlookup hne
    _ = put (location ++ [name]) new entry := (put_concat location name new entry).symm

end Entry

namespace FileSystem

variable {fs : FileSystem} {location : Location} {name temporary : String}

theorem ext_root {left right : FileSystem} (hroot : left.root = right.root)
    (hworking : left.workingDirectory = right.workingDirectory) : left = right := by
  cases left
  cases right
  obtain rfl := Entry.directory.inj hroot
  exact congrArg _ hworking

theorem root_put (fs : FileSystem) (location : Location) (name : String) (new : Entry) :
    (fs.put (location ++ [name]) new).root = Entry.put (location ++ [name]) new fs.root := by
  obtain ⟨changed, hput⟩ :
      ∃ changed, Entry.put (location ++ [name]) new fs.root = .directory changed :=
    Entry.exists_put_eq_directory location name new fs.children
  rw [put, hput]
  rfl

theorem root_remove (fs : FileSystem) (location : Location) (name : String) :
    (fs.remove (location ++ [name])).root = Entry.remove (location ++ [name]) fs.root := by
  obtain ⟨changed, hremove⟩ :
      ∃ changed, Entry.remove (location ++ [name]) fs.root = .directory changed :=
    Entry.exists_remove_eq_directory location name fs.children
  rw [remove, hremove]
  rfl

theorem workingDirectory_remove (fs : FileSystem) (location : Location) :
    (fs.remove location).workingDirectory = fs.workingDirectory := by
  rw [remove]
  split <;> rfl

/-- What is put where nothing stands can be taken away again. -/
theorem remove_put (new : Entry) (hparent : fs.kindAt? location = some .directory)
    (hfree : fs.kindAt? (location ++ [temporary]) = none) :
    (fs.put (location ++ [temporary]) new).remove (location ++ [temporary]) = fs := by
  apply ext_root
  · rw [root_remove, root_put, Entry.remove_put new hparent hfree]
  · rw [workingDirectory_remove, workingDirectory_put]

/-- What is put beside it in the meantime stays, as if the other had never been there. -/
theorem remove_put_put (new other : Entry) (hparent : fs.kindAt? location = some .directory)
    (hfree : fs.kindAt? (location ++ [temporary]) = none) (hne : name ≠ temporary) :
    ((fs.put (location ++ [temporary]) other).put (location ++ [name]) new).remove
        (location ++ [temporary]) = fs.put (location ++ [name]) new := by
  apply ext_root
  · rw [root_remove, root_put, root_put, root_put,
      Entry.remove_put_put new other hparent hfree hne]
  · simp only [workingDirectory_remove, workingDirectory_put]

end FileSystem

end AssetMenu
