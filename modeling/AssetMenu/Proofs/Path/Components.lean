import AssetMenu.FileSystem.Basic
import AssetMenu.Proofs.Text.Fields
import Mathlib.Data.List.DropRight

/-!
# Components of paths

The blank segments of a path name nothing, so what it names are the others, its
components.  The parent of a path has the same components without the last one.
It is moreover a beginning of the path as it is written, so it is shorter, and what
can be followed as a whole can be followed as far as any of the paths above it.
-/

namespace AssetMenu

namespace Text

theorem fields_eq_splitOn (c : Char) (cs : List Char) : fields (· == c) cs = cs.splitOn c := by
  rw [List.splitOn]
  induction cs with
  | nil => rfl
  | cons first cs ih =>
      have hne := fields_ne_nil (· == c) cs
      rw [List.splitOnP_cons_eq_if_modifyHead, fields, ← ih]
      split
      · rfl
      · cases hfields : fields (· == c) cs with
        | nil => contradiction
        | cons field rest => rfl

theorem intercalate_fields (c : Char) (cs : List Char) :
    List.intercalate [c] (fields (· == c) cs) = cs := by
  rw [fields_eq_splitOn, List.intercalate_splitOn]

theorem fields_intercalate {c : Char} {segments : List (List Char)}
    (hsegments : ∀ segment ∈ segments, c ∉ segment) (hne : segments ≠ []) :
    fields (· == c) (List.intercalate [c] segments) = segments := by
  rw [fields_eq_splitOn, List.splitOn_intercalate c hsegments hne]

theorem not_mem_of_mem_fields {c : Char} {cs field : List Char}
    (hfield : field ∈ fields (· == c) cs) : c ∉ field := by
  intro hc
  have hkept := (exists_mem_fields_iff.mp ⟨field, hfield, hc⟩).2
  simp at hkept

/-- The last field is empty only behind a cut, or of an empty text. -/
theorem getLast?_fields {sep : Char} {cs : List Char}
    (hlast : (fields (· == sep) cs).getLast? = some []) :
    cs = [] ∨ cs.getLast? = some sep := by
  induction cs using inductionOnLastCut (· == sep) with
  | uncut cs huncut =>
      rw [fields_eq_singleton huncut, List.getLast?_singleton] at hlast
      exact Or.inl (Option.some.inj hlast)
  | append front c back hcut hback _ =>
      rw [fields_append (by exact hcut), fields_eq_singleton hback, List.getLast?_concat] at hlast
      obtain rfl := Option.some.inj hlast
      obtain rfl : c = sep := eq_of_beq hcut
      exact Or.inr List.getLast?_concat

/-- The first segments make up a beginning of the whole. -/
theorem intercalate_append_isPrefix (c : Char) (front back : List (List Char)) :
    List.intercalate [c] front <+: List.intercalate [c] (front ++ back) := by
  induction front with
  | nil => exact List.nil_prefix
  | cons segment front ih =>
      cases front with
      | nil =>
          cases back with
          | nil => exact List.prefix_rfl
          | cons first back =>
              rw [List.singleton_append, List.intercalate_cons_cons, List.append_assoc]
              simp [List.intercalate]
      | cons next front =>
          rw [List.cons_append, List.cons_append, List.intercalate_cons_cons,
            List.intercalate_cons_cons]
          exact (List.prefix_append_right_inj _).mpr ih

end Text

namespace Path

open Text

/-- The components of a path, from the first to the last. -/
def components (path : Path) : List String :=
  (FileSystem.segments path).filter fun segment => !isBlank segment.toList

/-- A path in which nothing follows the last component. -/
def Tidy (path : Path) : Prop :=
  ∀ segment, (FileSystem.segments path).getLast? = some segment → isBlank segment.toList →
    path.components = []

/-! ## Marks -/

variable {cs : List Char} {path parent : Path}

theorem components_eq (path : Path) :
    path.components =
      ((fields (· == '/') path.text.toList).filter fun segment => !isBlank segment).map
        String.ofList := by
  rw [components, FileSystem.segments, List.filter_map]
  simp [Function.comp_def]

/-- A text is its mark and the segments behind it. -/
theorem assemble_body (cs : List Char) : assemble (mark cs) (body cs) = cs := by
  rw [assemble, body, intercalate_fields]
  fun_cases mark cs <;> simp

/-- Up to blank segments, the first segments behind the mark of a text are those of the
text that they make up with this mark. -/
theorem fields_assemble {front : List (List Char)} (hfront : front <+: body cs)
    (hne : front ≠ []) :
    ∃ before after rest, (∀ segment ∈ before ++ after, isBlank segment = true) ∧
      front = before ++ rest ∧
      fields (· == '/') (assemble (mark cs) front) = after ++ rest := by
  have hslash : ∀ segment ∈ front, '/' ∉ segment := fun segment hsegment =>
    not_mem_of_mem_fields (hfront.subset hsegment)
  have hfields := fields_intercalate hslash hne
  rw [assemble]
  unfold body at hfront
  fun_cases mark cs with
  | case1 rest =>
      exact ⟨[], [[]], front, by simp [isBlank], rfl, by simp [fields, hfields]⟩
  | case2 =>
      obtain rfl : front = [[]] := by
        have hbody : front <+: [[]] := hfront
        simpa [List.prefix_cons_iff, hne] using hbody
      exact ⟨[[]], [['.']], [], by simp [isBlank], rfl, rfl⟩
  | case3 rest =>
      have hbody : front <+: [] :: fields (· == '/') rest := hfront
      cases front with
      | nil => contradiction
      | cons first front =>
          obtain ⟨rfl, -⟩ := List.cons_prefix_cons.mp hbody
          refine ⟨[[]], [['.']], front, by simp [isBlank], rfl, ?_⟩
          cases front with
          | nil => rfl
          | cons second front =>
              rw [List.intercalate_cons_cons] at hfields ⊢
              simpa [fields] using hfields
  | case4 => exact ⟨[], [], front, by simp, rfl, hfields⟩

theorem isBlank_mark {segment : List Char} (hsegment : segment ∈ fields (· == '/') (mark cs)) :
    isBlank segment = true := by
  fun_cases mark cs
  all_goals simp_all [mark, fields, isBlank]

/-- The components of a beginning are the segments of it that are not blank. -/
theorem filter_fields_assemble {front : List (List Char)} (hfront : front <+: body cs) :
    ((fields (· == '/') (assemble (mark cs) front)).filter fun segment => !isBlank segment) =
      front.filter fun segment => !isBlank segment := by
  by_cases hne : front = []
  · subst hne
    have hmark : assemble (mark cs) [] = mark cs := List.append_nil _
    rw [hmark, List.filter_nil, List.filter_eq_nil_iff]
    intro segment hsegment
    simp [isBlank_mark hsegment]
  · obtain ⟨before, after, rest, hblank, hrest, hfields⟩ := fields_assemble hfront hne
    have hbefore : before.filter (fun segment => !isBlank segment) = [] := by
      rw [List.filter_eq_nil_iff]
      intro segment hsegment
      simp [hblank segment (List.mem_append_left _ hsegment)]
    have hafter : after.filter (fun segment => !isBlank segment) = [] := by
      rw [List.filter_eq_nil_iff]
      intro segment hsegment
      simp [hblank segment (List.mem_append_right _ hsegment)]
    rw [hfields, hrest, List.filter_append, List.filter_append, hbefore, hafter]

theorem components_eq_body (path : Path) :
    path.components =
      ((body path.text.toList).filter fun segment => !isBlank segment).map String.ofList := by
  have hbody := filter_fields_assemble (List.prefix_rfl (l := body path.text.toList))
  rw [assemble_body] at hbody
  rw [components_eq, hbody]

/-- What is seen from a directory has the components of the directory before its own. -/
theorem components_join {child : Path} (hrelative : child.isAbsolute = false) :
    (path.join child).components = path.components ++ child.components := by
  have hslash : ∀ front back : List Char,
      ((fields (· == '/') (front ++ '/' :: back)).filter fun segment => !isBlank segment) =
        ((fields (· == '/') front).filter fun segment => !isBlank segment) ++
          (fields (· == '/') back).filter fun segment => !isBlank segment := by
    intro front back
    rw [fields_append (by rfl), List.filter_append]
  rw [join, hrelative]
  simp only [Bool.false_eq_true, if_false]
  split
  next hend =>
    rcases Bool.or_eq_true_iff.mp hend with hempty | hlast
    · rw [isEmpty, List.isEmpty_iff] at hempty
      rw [components_eq, components_eq path, components_eq child, String.toList_append, hempty]
      simp [fields, isBlank]
    · obtain ⟨front, hfront⟩ := List.getLast?_eq_some_iff.mp (eq_of_beq hlast)
      have hopen := hslash front []
      rw [components_eq, components_eq path, components_eq child, String.toList_append, hfront,
        List.append_assoc, List.singleton_append, hslash, hopen]
      simp [fields, isBlank]
  next =>
    have htext : (path.text ++ "/" ++ child.text).toList =
        path.text.toList ++ '/' :: child.text.toList := by
      simp
    rw [components_eq, components_eq path, components_eq child, htext, hslash, List.map_append]

/-! ## Parents -/

theorem trim_eq (segments : List (List Char)) : trim segments = segments.rdropWhile isBlank := rfl

theorem filter_trim (segments : List (List Char)) :
    ((trim segments).filter fun segment => !isBlank segment) =
      segments.filter fun segment => !isBlank segment := by
  have hblank : (segments.rtakeWhile isBlank).filter (fun segment => !isBlank segment) = [] := by
    rw [List.filter_eq_nil_iff]
    intro segment hsegment
    simp [List.mem_rtakeWhile_imp hsegment]
  conv_rhs => rw [← List.rdropWhile_append_rtakeWhile (p := isBlank) (l := segments)]
  rw [List.filter_append, hblank, List.append_nil, trim_eq]

theorem trim_eq_nil_or_concat (segments : List (List Char)) :
    trim segments = [] ∨
      ∃ front last, trim segments = front ++ [last] ∧ isBlank last = false := by
  rcases List.eq_nil_or_concat (trim segments) with hnil | ⟨front, last, hconcat⟩
  · exact Or.inl hnil
  · rw [List.concat_eq_append] at hconcat
    have hne : segments.rdropWhile isBlank ≠ [] := by simp [← trim_eq, hconcat]
    have hlast := List.rdropWhile_last_not isBlank segments hne
    simp only [← trim_eq, hconcat, List.getLast_concat, Bool.not_eq_true] at hlast
    exact Or.inr ⟨front, last, hconcat, hlast⟩

theorem components_of_trim {front : List (List Char)} {last : List Char}
    (hconcat : trim (body path.text.toList) = front ++ [last]) (hlast : isBlank last = false) :
    path.components =
      (front.filter fun segment => !isBlank segment).map String.ofList ++ [String.ofList last] := by
  rw [components_eq_body, ← filter_trim, hconcat]
  simp [hlast]

theorem components_eq_nil_of_trim (htrim : trim (body path.text.toList) = []) :
    path.components = [] := by
  rw [components_eq_body, ← filter_trim, htrim]
  rfl

theorem components_eq_nil_of_parent?_eq_none (hparent : path.parent? = none) :
    path.components = [] := by
  rw [parent?] at hparent
  split at hparent
  next htrim => exact components_eq_nil_of_trim htrim
  next => contradiction

/-- A parent without text belongs to a path of one component, or to the dot alone.  Any other
parent is made of the segments before the last component. -/
theorem parent?_eq_some (hparent : path.parent? = some parent) :
    (path.components = [] ∧ parent = ⟨""⟩ ∧ mark path.text.toList = ['.']) ∨
      ∃ front last, trim (body path.text.toList) = front ++ [last] ∧ isBlank last = false ∧
        parent.text.toList = assemble (mark path.text.toList) (trim front) := by
  rw [parent?] at hparent
  split at hparent
  next htrim =>
    obtain ⟨hmark, hempty⟩ := Option.ite_none_right_eq_some.mp hparent
    exact Or.inl ⟨components_eq_nil_of_trim htrim, (Option.some.inj hempty).symm, hmark⟩
  next hne =>
    rcases trim_eq_nil_or_concat (body path.text.toList) with hnil | ⟨front, last, hconcat, hlast⟩
    · exact absurd hnil hne
    · rw [hconcat, List.dropLast_concat] at hparent
      refine Or.inr ⟨front, last, hconcat, hlast, ?_⟩
      rw [← Option.some.inj hparent, String.toList_ofList]

/-- The segments that a parent is made of. -/
theorem trim_prefix_body {front : List (List Char)} {last : List Char}
    (hconcat : trim (body cs) = front ++ [last]) : trim front <+: body cs := by
  have hfront : trim front <+: front := List.rdropWhile_prefix _ _
  have hbody : trim (body cs) <+: body cs := List.rdropWhile_prefix _ _
  rw [hconcat] at hbody
  exact hfront.trans ((List.prefix_append front [last]).trans hbody)

theorem components_of_assemble {front : List (List Char)} {last : List Char}
    (hconcat : trim (body cs) = front ++ [last])
    (htext : parent.text.toList = assemble (mark cs) (trim front)) :
    parent.components = (front.filter fun segment => !isBlank segment).map String.ofList := by
  rw [components_eq, htext, filter_fields_assemble (trim_prefix_body hconcat), filter_trim]

theorem components_parent (hparent : path.parent? = some parent) :
    (path.components = [] ∧ parent = ⟨""⟩) ∨
      ∃ name, path.components = parent.components ++ [name] := by
  rcases parent?_eq_some hparent with
    ⟨hnone, hempty, -⟩ | ⟨front, last, hconcat, hlast, htext⟩
  · exact Or.inl ⟨hnone, hempty⟩
  · refine Or.inr ⟨String.ofList last, ?_⟩
    rw [components_of_trim hconcat hlast, components_of_assemble hconcat htext]

theorem prefix_of_parent? (hparent : path.parent? = some parent) :
    parent.text.toList <+: path.text.toList := by
  rcases parent?_eq_some hparent with ⟨-, rfl, -⟩ | ⟨front, last, hconcat, -, htext⟩
  · exact List.nil_prefix
  · obtain ⟨rest, hrest⟩ := trim_prefix_body hconcat
    conv_rhs => rw [← assemble_body path.text.toList, ← hrest]
    rw [htext, assemble, assemble, List.prefix_append_right_inj]
    exact intercalate_append_isPrefix '/' (trim front) rest

theorem length_parent_lt (hparent : path.parent? = some parent) :
    parent.text.length < path.text.length := by
  have hbegins := prefix_of_parent? hparent
  refine Nat.lt_of_le_of_ne hbegins.length_le fun hlength => ?_
  have hsame := String.toList_inj.mp (hbegins.eq_of_length hlength)
  rcases parent?_eq_some hparent with ⟨-, rfl, hmark⟩ | ⟨front, last, hconcat, hlast, htext⟩
  · simp [← hsame, mark] at hmark
  · rcases components_parent hparent with ⟨-, rfl⟩ | ⟨name, hname⟩
    · simp [← hsame, body, mark, fields, trim, isBlank] at hconcat
    · have hcomponents : path.components = parent.components := by
        simp [components_eq, hsame]
      simp [hcomponents] at hname

/-- A parent is shorter than its path, so what is passed on from parents holds of all paths. -/
@[elab_as_elim]
theorem inductionOnParent {motive : Path → Prop} (path : Path)
    (top : ∀ path, path.parent? = none → motive path)
    (below : ∀ path parent, path.parent? = some parent → motive parent → motive path) :
    motive path := by
  induction hlength : path.text.length using Nat.strong_induction_on generalizing path with
  | h length ih =>
      cases hparent : path.parent? with
      | none => exact top path hparent
      | some parent =>
          have hlt : parent.text.length < length := hlength ▸ length_parent_lt hparent
          exact below path parent hparent (ih parent.text.length hlt parent rfl)

theorem tidy_parent (hparent : path.parent? = some parent) : parent.Tidy := by
  intro segment hsegment hblank
  rcases parent?_eq_some hparent with ⟨-, rfl, -⟩ | ⟨front, last, hconcat, -, htext⟩
  · rfl
  · have hfront := trim_prefix_body hconcat
    rw [components_eq, htext, filter_fields_assemble hfront]
    rcases trim_eq_nil_or_concat front with hnil | ⟨front', last', hconcat', hlast'⟩
    · simp [hnil]
    · obtain ⟨before, after, rest, hblanks, hrest, hfields⟩ :=
        fields_assemble hfront (by simp [hconcat'])
      have hlast : rest.getLast? = some last' := by
        rw [hconcat'] at hrest
        rcases List.eq_nil_or_concat rest with rfl | ⟨rest', segment', rfl⟩
        · rw [List.append_nil] at hrest
          have hmem : last' ∈ before ++ after := List.mem_append_left _ (by simp [← hrest])
          simp [hblanks last' hmem] at hlast'
        · simpa using (congrArg List.getLast? hrest).symm
      rw [FileSystem.segments, htext, hfields, List.map_append, List.getLast?_append,
        List.getLast?_map, hlast] at hsegment
      obtain rfl : String.ofList last' = segment := by simpa using hsegment
      simp [hlast'] at hblank

/-! ## The paths above -/

theorem parentsWithin_eq {bound bound' : Nat} (hbound : path.text.length ≤ bound)
    (hbound' : path.text.length ≤ bound') :
    parentsWithin bound path = parentsWithin bound' path := by
  induction bound generalizing bound' path with
  | zero =>
      cases bound' with
      | zero => rfl
      | succ bound' =>
          cases hparent : path.parent? with
          | none => rw [parentsWithin, parentsWithin, hparent]
          | some parent =>
              have hlength := length_parent_lt hparent
              omega
  | succ bound ih =>
      cases bound' with
      | zero =>
          cases hparent : path.parent? with
          | none => rw [parentsWithin, parentsWithin, hparent]
          | some parent =>
              have hlength := length_parent_lt hparent
              omega
      | succ bound' =>
          rw [parentsWithin, parentsWithin]
          cases hparent : path.parent? with
          | none => rfl
          | some parent =>
              have hlength := length_parent_lt hparent
              exact congrArg (parent :: ·) (ih (by omega) (by omega))

theorem parents_of_none (hparent : path.parent? = none) : path.parents = [] := by
  rw [parents]
  cases path.text.length with
  | zero => rfl
  | succ bound => rw [parentsWithin, hparent]

theorem parents_of_some (hparent : path.parent? = some parent) :
    path.parents = parent :: parent.parents := by
  have hlength := length_parent_lt hparent
  have hsucc : path.parents = parentsWithin (path.text.length + 1) path :=
    parentsWithin_eq (Nat.le_refl _) (Nat.le_succ _)
  rw [hsucc, parentsWithin, hparent]
  exact congrArg (parent :: ·) (parentsWithin_eq (Nat.le_of_lt hlength) (Nat.le_refl _))

/-- A path on the way up from another one, as far as it can be followed. -/
structure Above (above path : Path) : Prop where
  written : above.text.toList <+: path.text.toList
  components : above.components <+: path.components
  tidy : above.Tidy

theorem Above.refl (htidy : path.Tidy) : Above path path :=
  ⟨List.prefix_rfl, List.prefix_rfl, htidy⟩

theorem above_parent (hparent : path.parent? = some parent) : Above parent path where
  written := prefix_of_parent? hparent
  components := by
    rcases components_parent hparent with ⟨-, rfl⟩ | ⟨name, hname⟩
    · exact List.nil_prefix
    · rw [hname]
      exact List.prefix_append _ _
  tidy := tidy_parent hparent

theorem above_of_mem_parents {above : Path} (habove : above ∈ path.parents) :
    Above above path := by
  induction path using inductionOnParent with
  | top path hparent => simp [parents_of_none hparent] at habove
  | below path parent hparent ih =>
      have hfirst := above_parent hparent
      rw [parents_of_some hparent] at habove
      rcases List.mem_cons.mp habove with rfl | hrest
      · exact hfirst
      · have hnext := ih hrest
        exact ⟨hnext.written.trans hfirst.written, hnext.components.trans hfirst.components,
          hnext.tidy⟩

/-- A path above lacks the last component at least. -/
theorem isPrefix_dropLast_of_mem_parents {above : Path} (habove : above ∈ path.parents) :
    above.components <+: path.components.dropLast := by
  cases hparent : path.parent? with
  | none => simp [parents_of_none hparent] at habove
  | some parent =>
      have hdropped : path.components.dropLast = parent.components := by
        rcases components_parent hparent with ⟨hnone, rfl⟩ | ⟨name, hname⟩
        · rw [hnone]
          rfl
        · rw [hname, List.dropLast_concat]
      rw [hdropped]
      rw [parents_of_some hparent] at habove
      rcases List.mem_cons.mp habove with rfl | hrest
      · exact List.prefix_rfl
      · exact (above_of_mem_parents hrest).components

/-- There is a path above for each beginning of the components. -/
theorem exists_mem_parents {front : List String} (hfront : front <+: path.components)
    (hne : front ≠ path.components) (hnil : front ≠ []) :
    ∃ above ∈ path.parents, above.components = front := by
  have hsome : ∀ {path : Path}, front <+: path.components → path.components ≠ [] :=
    fun hfront hcomponents => hnil (List.prefix_nil.mp (hcomponents ▸ hfront))
  induction path using inductionOnParent with
  | top path hparent =>
      exact absurd (components_eq_nil_of_parent?_eq_none hparent) (hsome hfront)
  | below path parent hparent ih =>
      rcases components_parent hparent with ⟨hnone, -⟩ | ⟨name, hname⟩
      · exact absurd hnone (hsome hfront)
      · rw [parents_of_some hparent]
        rw [hname] at hfront hne
        have hbegins := (List.prefix_concat_iff.mp hfront).resolve_left hne
        by_cases hsame : front = parent.components
        · exact ⟨parent, List.mem_cons_self, hsame.symm⟩
        · obtain ⟨above, habove, hcomponents⟩ := ih hbegins hsame
          exact ⟨above, List.mem_cons_of_mem _ habove, hcomponents⟩

theorem isEmpty_eq_false_iff : path.isEmpty = false ↔ path.text.toList ≠ [] := by
  rw [isEmpty, List.isEmpty_eq_false_iff]

theorem isEmpty_eq_true_iff : path.isEmpty = true ↔ path = ⟨""⟩ := by
  rw [isEmpty, List.isEmpty_iff]
  constructor
  · intro hnil
    cases path
    simpa using hnil
  · rintro rfl
    rfl

theorem isEmpty_eq_false_of_components (hcomponents : path.components ≠ []) :
    path.isEmpty = false := by
  rw [Bool.eq_false_iff, Ne, isEmpty_eq_true_iff]
  rintro rfl
  exact hcomponents rfl

/-- Both start at the root, or both do not. -/
theorem isAbsolute_eq_of_isPrefix (hwritten : parent.text.toList <+: path.text.toList)
    (hne : parent.isEmpty = false) : parent.isAbsolute = path.isAbsolute := by
  rw [isEmpty_eq_false_iff] at hne
  obtain ⟨rest, hrest⟩ := hwritten
  rw [isAbsolute, isAbsolute, ← hrest, List.head?_append_of_ne_nil _ hne]

theorem isAbsolute_join {child : Path} (hrelative : child.isAbsolute = false)
    (hne : path.isEmpty = false) : (path.join child).isAbsolute = path.isAbsolute := by
  refine (isAbsolute_eq_of_isPrefix ?_ hne).symm
  rw [join, hrelative]
  simp only [Bool.false_eq_true, if_false]
  split <;> simp

theorem isAbsolute_eq_false_of_parent (hparent : path.parent? = some ⟨""⟩) :
    path.isAbsolute = false := by
  have hmark : mark path.text.toList ≠ ['/'] := by
    rcases parent?_eq_some hparent with ⟨-, -, hmark⟩ | ⟨front, last, -, -, htext⟩
    · simp [hmark]
    · intro hmark
      simp [assemble, hmark] at htext
  rw [Bool.eq_false_iff]
  intro habsolute
  obtain ⟨rest, hrest⟩ := List.head?_eq_some_iff.mp (eq_of_beq habsolute)
  exact hmark (by rw [hrest, mark])

/-! ## The directory of a file -/

theorem getLast?_components {name : String} (hname : path.lastComponent = .name name) :
    path.components.getLast? = some name ∧ name ≠ ".." := by
  rw [lastComponent] at hname
  rcases trim_eq_nil_or_concat (body path.text.toList) with hnil | ⟨front, last, hconcat, hlast⟩
  · rw [hnil] at hname
    simp only [List.getLast?_nil] at hname
    split at hname <;> contradiction
  · simp only [hconcat, List.getLast?_concat] at hname
    split at hname
    · contradiction
    next hparent =>
      obtain rfl := LastComponent.name.inj hname
      refine ⟨by rw [components_of_trim hconcat hlast, List.getLast?_concat], ?_⟩
      intro hdots
      have hlist := congrArg String.toList hdots
      rw [String.toList_ofList] at hlist
      exact hparent (hlist.trans (by decide))

/-- The path of a directory, and the path of what has the name in it. -/
structure Holds (directory path : Path) (name : String) : Prop where
  components : path.components = directory.components ++ [name]
  isAbsolute : directory.isAbsolute = path.isAbsolute
  tidy : directory.Tidy
  nonempty : directory.isEmpty = false
  written : directory = ⟨"."⟩ ∨ directory.text.toList <+: path.text.toList

theorem holds_directory {name : String} (hname : path.lastComponent = .name name) :
    Holds path.directory path name := by
  obtain ⟨hlast, -⟩ := getLast?_components hname
  cases hparent : path.parent? with
  | none => simp [components_eq_nil_of_parent?_eq_none hparent] at hlast
  | some parent =>
      have hcomponents : path.components = parent.components ++ [name] := by
        rcases components_parent hparent with ⟨hnone, -⟩ | ⟨name', hname'⟩
        · simp [hnone] at hlast
        · rw [hname', List.getLast?_concat, Option.some.injEq] at hlast
          rw [hname', hlast]
      rw [directory, hparent]
      cases hempty : parent.isEmpty with
      | false =>
          simp only [hempty, Bool.false_eq_true, if_false]
          have hbegins := prefix_of_parent? hparent
          exact ⟨hcomponents, isAbsolute_eq_of_isPrefix hbegins hempty, tidy_parent hparent, hempty,
            Or.inr hbegins⟩
      | true =>
          obtain rfl := isEmpty_eq_true_iff.mp hempty
          have habsolute := isAbsolute_eq_false_of_parent hparent
          simp only [hempty, if_true]
          refine ⟨hcomponents, habsolute.symm, ?_, rfl, Or.inl rfl⟩
          intro segment _ _
          rfl

end Path

end AssetMenu
