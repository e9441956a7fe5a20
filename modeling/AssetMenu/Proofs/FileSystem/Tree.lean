import AssetMenu.FileSystem.Basic

/-!
# What stands where

Whether a path can be followed depends on what kind of entry stands at each place
on its way, and not on the order in which a directory lists its entries.  So a
file system is looked at place by place.  An entry without children that is put
into a directory changes what stands at its own place, and nothing else.
-/

namespace AssetMenu

/-- What stands at a place, apart from what is below it. -/
inductive Kind where
  | file (content : ByteArray)
  | directory

namespace Entry

/-- What kind of entry it is. -/
def kind : Entry → Kind
  | .file content => .file content
  | .directory _ => .directory

theorem isDirectory_iff {entry : Entry} : entry.isDirectory = true ↔ entry.kind = .directory := by
  cases entry <;> simp [isDirectory, kind]

/-- The kind of entry at a place. -/
def kindAt? (location : Location) (entry : Entry) : Option Kind :=
  (entry.at? location).map kind

theorem kindAt?_nil (entry : Entry) : entry.kindAt? [] = some entry.kind := by
  simp [kindAt?, at?]

theorem kindAt?_cons_file (name : String) (rest : Location) (content : ByteArray) :
    (Entry.file content).kindAt? (name :: rest) = none := by
  simp [kindAt?, at?]

theorem kindAt?_cons_directory (name : String) (rest : Location)
    (children : List (String × Entry)) :
    (Entry.directory children).kindAt? (name :: rest) =
      (children.lookup name).bind (kindAt? rest) := by
  cases h : children.lookup name <;> simp [kindAt?, at?, h]

/-- What stands below an entry, where there is nothing below a file. -/
theorem kindAt?_append (above below : Location) (entry : Entry) :
    entry.kindAt? (above ++ below) = (entry.at? above).bind (kindAt? below) := by
  induction above generalizing entry with
  | nil => simp [at?]
  | cons name above ih =>
      rw [List.cons_append]
      cases entry with
      | file content => simp [kindAt?_cons_file, at?]
      | directory children =>
          rw [kindAt?_cons_directory, at?]
          cases children.lookup name with
          | none => rfl
          | some child => exact ih child

theorem lookup_cons_eq_ite (name other : String) (entry : Entry)
    (children : List (String × Entry)) :
    ((name, entry) :: children).lookup other =
      if other = name then some entry else children.lookup other := by
  by_cases hother : other = name
  · simp [hother]
  · rw [List.lookup_cons, beq_false_of_ne hother, if_neg hother]

theorem lookup_replaceChild (name other : String) (new : Entry)
    (children : List (String × Entry)) :
    (replaceChild name new children).lookup other =
      if other = name ∧ (children.lookup name).isSome then some new
      else children.lookup other := by
  induction children with
  | nil => simp [replaceChild]
  | cons child children ih =>
      obtain ⟨present, old⟩ := child
      rw [lookup_cons_eq_ite present other, lookup_cons_eq_ite present name]
      by_cases hname : name = present
      · subst hname
        by_cases hother : other = name <;> simp [replaceChild, lookup_cons_eq_ite, hother]
      · have hput : replaceChild name new ((present, old) :: children) =
            (present, old) :: replaceChild name new children := by
          rw [replaceChild, if_neg (by simpa using hname)]
        rw [hput, lookup_cons_eq_ite, ih, if_neg hname]
        by_cases hother : other = present
        · subst hother
          simp [Ne.symm hname]
        · simp [hother]

theorem lookup_append_new {name : String} (other : String) (new : Entry)
    {children : List (String × Entry)} (hfree : children.lookup name = none) :
    (children ++ [(name, new)]).lookup other =
      if other = name then some new else children.lookup other := by
  by_cases hother : other = name
  · subst hother
    simp [List.lookup_append, hfree]
  · simp [List.lookup_append, lookup_cons_eq_ite, hother]

/-- An entry without children: a file, or a directory that is empty. -/
def IsLeaf (entry : Entry) : Prop :=
  ∀ name rest, entry.kindAt? (name :: rest) = none

theorem isLeaf_file (content : ByteArray) : (Entry.file content).IsLeaf :=
  fun name rest => kindAt?_cons_file name rest content

theorem isLeaf_directory : (Entry.directory []).IsLeaf :=
  fun name rest => kindAt?_cons_directory name rest []

theorem isLeaf_of_kind_ne {entry : Entry} (hkind : entry.kind ≠ .directory) : entry.IsLeaf := by
  cases entry with
  | file content => exact isLeaf_file content
  | directory children => exact absurd rfl hkind

/-- An entry without children that is put into a directory changes what stands at its name,
unless it would hide what is below another directory. -/
theorem kindAt?_put_child {name : String} {new : Entry} (hnew : new.IsLeaf)
    {children : List (String × Entry)}
    (hold : (Entry.directory children).kindAt? [name] ≠ some .directory) (other : Location) :
    (put [name] new (.directory children)).kindAt? other =
      if other = [name] then some new.kind else (Entry.directory children).kindAt? other := by
  have hchildren : ∃ changed, put [name] new (.directory children) = .directory changed ∧
      ∀ other, changed.lookup other = if other = name then some new else children.lookup other := by
    cases hlookup : children.lookup name with
    | none => exact ⟨_, by simp [put, hlookup], fun other => lookup_append_new other new hlookup⟩
    | some old =>
        refine ⟨replaceChild name new children, by simp [put, hlookup], fun other => ?_⟩
        simp [lookup_replaceChild, hlookup]
  obtain ⟨changed, hput, hlookup⟩ := hchildren
  rw [hput]
  cases other with
  | nil => simp [kindAt?_nil, kind]
  | cons first rest =>
      rw [kindAt?_cons_directory, hlookup, kindAt?_cons_directory]
      by_cases hfirst : first = name
      · subst hfirst
        cases rest with
        | nil => simp [kindAt?_nil]
        | cons second rest =>
            have hleaf : (children.lookup first).bind (kindAt? (second :: rest)) = none := by
              cases hchild : children.lookup first with
              | none => rfl
              | some old =>
                  rw [kindAt?_cons_directory, hchild, Option.bind_some, kindAt?_nil] at hold
                  exact isLeaf_of_kind_ne (fun hkind => hold (congrArg some hkind)) second rest
            simpa [hleaf] using hnew second rest
      · simp [hfirst]

/-- The same holds of an entry that is put into a directory further down. -/
theorem kindAt?_put {location : Location} {name : String} {new entry : Entry}
    (hnew : new.IsLeaf) (hparent : entry.kindAt? location = some .directory)
    (hold : entry.kindAt? (location ++ [name]) ≠ some .directory) (other : Location) :
    (put (location ++ [name]) new entry).kindAt? other =
      if other = location ++ [name] then some new.kind else entry.kindAt? other := by
  induction location generalizing entry other with
  | nil =>
      cases entry with
      | file content => simp [kindAt?_nil, kind] at hparent
      | directory children => exact kindAt?_put_child hnew hold other
  | cons first location ih =>
      cases entry with
      | file content => simp [kindAt?_cons_file] at hparent
      | directory children =>
          rw [List.cons_append, kindAt?_cons_directory] at hold
          rw [kindAt?_cons_directory] at hparent
          cases hchild : children.lookup first with
          | none => simp [hchild] at hparent
          | some child =>
              rw [hchild] at hparent hold
              have hput : put (first :: location ++ [name]) new (.directory children) =
                  .directory
                    (replaceChild first (put (location ++ [name]) new child) children) := by
                simp [put, hchild]
              rw [hput]
              cases other with
              | nil => simp [kindAt?_nil, kind]
              | cons second rest =>
                  rw [kindAt?_cons_directory, kindAt?_cons_directory, lookup_replaceChild, hchild]
                  by_cases hsecond : second = first
                  · subst hsecond
                    simpa [hchild] using ih hparent hold rest
                  · simp [hsecond]

/-- What has something below it is a directory. -/
theorem kindAt?_eq_directory {location : Location} {name : String} {rest : Location}
    {entry : Entry} (hbelow : entry.kindAt? (location ++ name :: rest) ≠ none) :
    entry.kindAt? location = some .directory := by
  rw [kindAt?_append] at hbelow
  cases hat : entry.at? location with
  | none => simp [hat] at hbelow
  | some found =>
      cases found with
      | file content => simp [hat, kindAt?_cons_file] at hbelow
      | directory children => simp [kindAt?, hat, kind]

end Entry

namespace FileSystem

/-- The kind of entry at a place. -/
def kindAt? (fs : FileSystem) (location : Location) : Option Kind :=
  fs.root.kindAt? location

variable {fs : FileSystem} {location : Location} {name : String}

theorem kindAt?_eq_map (fs : FileSystem) (location : Location) :
    fs.kindAt? location = (fs.at? location).map Entry.kind := rfl

theorem kindAt?_root (fs : FileSystem) : fs.kindAt? [] = some .directory := rfl

theorem kindAt?_put {new : Entry} (hnew : new.IsLeaf)
    (hparent : fs.kindAt? location = some .directory)
    (hold : fs.kindAt? (location ++ [name]) ≠ some .directory) (other : Location) :
    (fs.put (location ++ [name]) new).kindAt? other =
      if other = location ++ [name] then some new.kind else fs.kindAt? other := by
  have hroot := Entry.kindAt?_put hnew hparent hold
  have htop : (Entry.put (location ++ [name]) new fs.root).kind = .directory := by
    have htop := hroot []
    rw [if_neg (by simp), Entry.kindAt?_nil] at htop
    exact Option.some.inj (htop.trans (kindAt?_root fs))
  rw [put]
  cases hput : Entry.put (location ++ [name]) new fs.root with
  | file content => simp [hput, Entry.kind] at htop
  | directory children =>
      rw [hput] at hroot
      exact hroot other

theorem workingDirectory_put (fs : FileSystem) (location : Location) (new : Entry) :
    (fs.put location new).workingDirectory = fs.workingDirectory := by
  rw [put]
  split <;> rfl

/-- What has something below it is a directory. -/
theorem kindAt?_eq_directory {rest : Location}
    (hbelow : fs.kindAt? (location ++ name :: rest) ≠ none) :
    fs.kindAt? location = some .directory :=
  Entry.kindAt?_eq_directory hbelow

theorem kindAt?_dropLast (hdirectory : fs.kindAt? location = some .directory) :
    fs.kindAt? location.dropLast = some .directory := by
  rcases List.eq_nil_or_concat location with rfl | ⟨above, name, rfl⟩
  · exact hdirectory
  · rw [List.concat_eq_append] at hdirectory ⊢
    rw [List.dropLast_concat]
    have hbelow : fs.kindAt? (above ++ name :: []) ≠ none := by simp [hdirectory]
    exact kindAt?_eq_directory hbelow

end FileSystem

end AssetMenu
