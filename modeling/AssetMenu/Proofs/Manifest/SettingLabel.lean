import AssetMenu.Proofs.Document.Marking
import AssetMenu.Proofs.Manifest.Faults
import AssetMenu.Proofs.Text.Lines
import Mathlib.Data.List.TakeWhile

/-!
# The label of a setting

A setting is looked for at the beginning of the lines of a source.  Its label has the length of the
assignment that is found.  It begins as many bytes before the assignment as there are carriage
returns at the ends of the lines above, since every line end is counted as one byte.
-/

namespace AssetMenu

open Text Document

namespace Label

variable {key source line : List Char} {span : Span}

/-- `text` assigns a value to `key`. -/
def Assigns (key text : List Char) : Prop :=
  ∃ blanks value, text = key ++ (blanks ++ '=' :: value) ∧ ∀ c ∈ blanks, isBlank c = true

theorem isBlank_equals : isBlank '=' = false := by
  decide

theorem assigns_iff {text : List Char} : assigns key text = true ↔ Assigns key text := by
  rw [assigns, Bool.and_eq_true, beq_iff_eq, List.isPrefixOf_iff_prefix]
  constructor
  · rintro ⟨⟨rest, rfl⟩, hequals⟩
    rw [List.drop_left, List.head?_eq_some_iff] at hequals
    obtain ⟨value, hvalue⟩ := hequals
    refine ⟨rest.takeWhile isBlank, value, ?_, fun c hc => List.mem_takeWhile_imp hc⟩
    rw [← hvalue, List.takeWhile_append_dropWhile]
  · rintro ⟨blanks, value, rfl, hblanks⟩
    refine ⟨List.prefix_append _ _, ?_⟩
    rw [List.drop_left, List.dropWhile_append_of_pos hblanks,
      List.dropWhile_cons_of_neg (by simp [isBlank_equals])]
    rfl

/-- A line that assigns a value, in the midst of a source. -/
structure SettingLine where
  above : List Char
  indentation : List Char
  assignment : List Char
  below : List Char

namespace SettingLine

/-- The place of the assignment. -/
def place (line : SettingLine) : Span :=
  Span.ofLength (byteCount (line.above ++ line.indentation)) (byteCount line.assignment)

/-- The line is one of the source, and assigns a value to `key`. -/
structure StandsIn (line : SettingLine) (key source : List Char) : Prop where
  source_eq :
    source = line.above ++ (line.indentation ++ (line.assignment ++ line.below))
  above_ends : line.above = [] ∨ line.above.getLast? = some '\n'
  newline_not_mem : '\n' ∉ line.indentation ++ line.assignment
  below_begins : line.below = [] ∨ ['\n'] <+: line.below ∨ ['\r', '\n'] <+: line.below
  isBlank_indentation : ∀ c ∈ line.indentation, isBlank c = true
  assigns : Assigns key line.assignment

theorem StandsIn.marks {line : SettingLine} (hline : line.StandsIn key source) :
    line.place.Marks source line.assignment :=
  ⟨line.above ++ line.indentation, line.below, by simp [hline.source_eq], rfl⟩

/-- A line stays a line when another one is put above it. -/
theorem StandsIn.cons {line : SettingLine} (hline : line.StandsIn key source)
    (other : List Char) :
    StandsIn { line with above := other ++ '\n' :: line.above } key
      (other ++ '\n' :: source) where
  source_eq := by simp [hline.source_eq]
  above_ends := by
    rcases hline.above_ends with hnil | hends
    · simp [hnil]
    · simp [List.getLast?_cons, hends]
  newline_not_mem := hline.newline_not_mem
  below_begins := hline.below_begins
  isBlank_indentation := hline.isBlank_indentation
  assigns := hline.assigns

/-- The first line of a source as a line that assigns a value. -/
def ofFirst (shown below : List Char) : SettingLine :=
  ⟨[], shown.takeWhile isBlank, shown.dropWhile isBlank, below⟩

theorem standsIn_ofFirst {shown below : List Char} (hshown : '\n' ∉ shown)
    (hbelow : below = [] ∨ ['\n'] <+: below ∨ ['\r', '\n'] <+: below)
    (hassigns : Assigns key (shown.dropWhile isBlank)) :
    (ofFirst shown below).StandsIn key (shown ++ below) where
  source_eq := by
    rw [ofFirst, List.nil_append, ← List.append_assoc, List.takeWhile_append_dropWhile]
  above_ends := Or.inl rfl
  newline_not_mem := by
    rwa [ofFirst, List.takeWhile_append_dropWhile]
  below_begins := hbelow
  isBlank_indentation := fun c hc => List.mem_takeWhile_imp hc
  assigns := hassigns

theorem place_ofFirst (shown below : List Char) :
    (ofFirst shown below).place =
      Span.ofLength (byteCount shown - byteCount (shown.dropWhile isBlank))
        (byteCount (shown.dropWhile isBlank)) := by
  have hbytes := congrArg byteCount (List.takeWhile_append_dropWhile (p := isBlank) (l := shown))
  rw [byteCount_append] at hbytes
  rw [place, ofFirst, List.nil_append, ← hbytes, Nat.add_sub_cancel]

end SettingLine

/-- A label for the first line that assigns a value to `key`, as many bytes before the assignment
as there are carriage returns in the line ends above. -/
structure Trails (key source : List Char) (span : Span) (line : SettingLine) : Prop where
  standsIn : line.StandsIn key source
  first : ∀ shown ∈ lines line.above, ¬ Assigns key (shown.dropWhile isBlank)
  start_add : span.start + returns line.above = line.place.start
  stop_add : span.stop + returns line.above = line.place.stop

theorem exists_shown_append_below (hline : '\n' ∉ line) (rest : List Char) :
    ∃ below, line ++ '\n' :: rest = dropReturn line ++ below ∧ '\n' ∉ dropReturn line ∧
      (['\n'] <+: below ∨ ['\r', '\n'] <+: below) := by
  by_cases hreturn : line.getLast? = some '\r'
  · obtain ⟨shown, rfl⟩ := List.getLast?_eq_some_iff.mp hreturn
    rw [dropReturn_append_return]
    refine ⟨'\r' :: '\n' :: rest, by simp, fun hnewline => hline ?_, Or.inr ⟨rest, rfl⟩⟩
    exact List.mem_append_left _ hnewline
  · rw [dropReturn_eq_self hreturn]
    exact ⟨'\n' :: rest, rfl, hline, Or.inl ⟨rest, rfl⟩⟩

/-- A line that is found behind another one is found as many bytes later as that line is counted. -/
theorem Trails.cons {start length : Nat} {found : SettingLine} (hline : '\n' ∉ line)
    (hnone : ¬ Assigns key ((dropReturn line).dropWhile isBlank))
    (hfound : Trails key source (Span.ofLength start length) found) :
    Trails key (line ++ '\n' :: source)
      (Span.ofLength (byteCount (dropReturn line) + 1 + start) length)
      { found with above := line ++ '\n' :: found.above } where
  standsIn := hfound.standsIn.cons line
  first := by
    rw [lines_append_newline hline]
    exact List.forall_mem_cons.mpr ⟨hnone, hfound.first⟩
  start_add := by
    have hstart := hfound.start_add
    have hend := byteCount_append_newline line
    simp only [SettingLine.place, Span.ofLength, byteCount_append, byteCount_cons,
      byteCount_nil] at hstart hend ⊢
    rw [returns_append_newline hline]
    omega
  stop_add := by
    have hstop := hfound.stop_add
    have hend := byteCount_append_newline line
    simp only [SettingLine.place, Span.ofLength, byteCount_append, byteCount_cons,
      byteCount_nil] at hstop hend ⊢
    rw [returns_append_newline hline]
    omega

theorem trails_ofFirst {shown below : List Char} (hshown : '\n' ∉ shown)
    (hbelow : below = [] ∨ ['\n'] <+: below ∨ ['\r', '\n'] <+: below)
    (hassigns : Assigns key (shown.dropWhile isBlank)) :
    Trails key (shown ++ below) (SettingLine.ofFirst shown below).place
      (SettingLine.ofFirst shown below) where
  standsIn := SettingLine.standsIn_ofFirst hshown hbelow hassigns
  first := by simp [SettingLine.ofFirst, lines_of_not_mem]
  start_add := rfl
  stop_add := rfl

/-- The search among lines that `offset` bytes are counted before. -/
theorem exists_trails_of_inLines? {offset : Nat}
    (hfound : inLines? key offset (lines source) = some span) :
    ∃ start length, span = Span.ofLength (offset + start) length ∧
      ∃ line, Trails key source (Span.ofLength start length) line := by
  induction source using inductionOnLines generalizing offset with
  | last shown hshown =>
      rw [lines_of_not_mem hshown] at hfound
      split at hfound
      next => simp [inLines?] at hfound
      next =>
        rw [inLines?] at hfound
        split at hfound
        next hassigns =>
          obtain rfl := Option.some.inj hfound
          refine ⟨_, _, rfl, SettingLine.ofFirst shown [], ?_⟩
          have htrails := trails_ofFirst hshown (Or.inl rfl) (assigns_iff.mp hassigns)
          rwa [List.append_nil, SettingLine.place_ofFirst] at htrails
        next => simp [inLines?] at hfound
  | more line rest hline ih =>
      rw [lines_append_newline hline, inLines?] at hfound
      split at hfound
      next hassigns =>
        obtain rfl := Option.some.inj hfound
        obtain ⟨below, hsource, hshown, hbelow⟩ := exists_shown_append_below hline rest
        refine ⟨_, _, rfl, SettingLine.ofFirst (dropReturn line) below, ?_⟩
        have htrails := trails_ofFirst hshown (Or.inr hbelow) (assigns_iff.mp hassigns)
        rwa [← hsource, SettingLine.place_ofFirst] at htrails
      next hnone =>
        obtain ⟨start, length, rfl, found, htrails⟩ := ih hfound
        refine ⟨byteCount (dropReturn line) + 1 + start, length, by simp only [Nat.add_assoc],
          _, htrails.cons hline ?_⟩
        rwa [← assigns_iff]

theorem exists_trails_of_ofSetting? (hfound : ofSetting? source key = some span) :
    ∃ line, Trails key source span line := by
  obtain ⟨start, length, rfl, line, htrails⟩ := exists_trails_of_inLines? hfound
  exact ⟨line, by rwa [Nat.zero_add]⟩

/-- The label is well placed exactly if no carriage return ends a line above. -/
theorem Trails.eq_place_iff {found : SettingLine} (htrails : Trails key source span found) :
    span = found.place ↔ returns found.above = 0 := by
  have hstart := htrails.start_add
  have hstop := htrails.stop_add
  constructor
  · rintro rfl
    omega
  · intro hnone
    rw [hnone, Nat.add_zero] at hstart hstop
    exact congr (congrArg Span.mk hstart) hstop

theorem Trails.stop_le {found : SettingLine} (htrails : Trails key source span found) :
    span.stop ≤ byteCount source := by
  have hstop := htrails.stop_add
  have hplace := htrails.standsIn.marks.stop_le
  omega

/-- No line is found exactly if none assigns a value. -/
theorem inLines?_eq_none_iff {offset : Nat} {shown : List (List Char)} :
    inLines? key offset shown = none ↔ ∀ line ∈ shown, ¬ Assigns key (line.dropWhile isBlank) := by
  induction shown generalizing offset with
  | nil => simp [inLines?]
  | cons line rest ih =>
      rw [inLines?, List.forall_mem_cons, ← assigns_iff]
      split
      next hassigns => simp [hassigns]
      next hnone => simp [hnone, ih]

end Label

namespace Manifest

theorem eq_ofSetting?_of_refuses {source : String} {label : Option Span}
    (hrefuses : Refuses source (.emptyOutput label)) :
    label = Label.ofSetting? source.toList "output".toList := by
  cases hrefuses with
  | violates _ _ hviolates =>
      cases hviolates
      rfl

/-- A label that is looked for at an assignment comes before it by one byte for every line above
that ends with a carriage return, so that it marks the assignment if there is no such line.  The
label of a missing output path is looked for in this way, and is left out only if no line assigns
an output path. -/
theorem ofSource_emptyOutput_label (source file : String) (key : List Char) :
    (∀ span, Label.ofSetting? source.toList key = some span →
      ∃ line, Label.Trails key source.toList span line ∧ span.stop ≤ byteCount source.toList ∧
        (span = line.place ↔ returns line.above = 0) ∧
        (returns line.above = 0 →
          span.Marks source.toList line.assignment ∧ Label.Assigns key line.assignment)) ∧
    ∀ label, ofSource source file = .error (.refused file (.emptyOutput label)) →
      label = Label.ofSetting? source.toList "output".toList ∧
      (label = none ↔
        ∀ line ∈ lines source.toList,
          ¬ Label.Assigns "output".toList (line.dropWhile isBlank)) := by
  constructor
  case left =>
    intro span hfound
    obtain ⟨line, htrails⟩ := Label.exists_trails_of_ofSetting? hfound
    refine ⟨line, htrails, htrails.stop_le, htrails.eq_place_iff, fun hnone => ?_⟩
    rw [htrails.eq_place_iff.mpr hnone]
    exact ⟨htrails.standsIn.marks, htrails.standsIn.assigns⟩
  case right =>
    intro label hread
    obtain ⟨fault, hfault, hrefuses⟩ := refuses_of_ofSource hread
    obtain ⟨-, rfl⟩ := ManifestError.refused.inj hfault
    obtain rfl := eq_ofSetting?_of_refuses hrefuses
    exact ⟨rfl, Label.inLines?_eq_none_iff⟩

/-- An empty output path, below a comment whose line ends with a carriage return. -/
def remarkedSource : String :=
  "# é\r\n[generator]\n  output = \"\"\n"

theorem ofSource_remarkedSource :
    Label.ofSetting? remarkedSource.toList "output".toList = some ⟨19, 30⟩ ∧
      ofSource remarkedSource fileName =
        .error (.refused fileName (.emptyOutput (some ⟨19, 30⟩))) ∧
      (∃ line, Label.Trails "output".toList remarkedSource.toList ⟨19, 30⟩ line) ∧
      ∃ line ∈ lines remarkedSource.toList,
        Label.Assigns "output".toList (line.dropWhile isBlank) := by
  have hfound : Label.ofSetting? remarkedSource.toList "output".toList = some ⟨19, 30⟩ := by
    decide +kernel
  have hread : ofSource remarkedSource fileName =
      .error (.refused fileName (.emptyOutput (some ⟨19, 30⟩))) := by decide +kernel
  have hlabel := ofSource_emptyOutput_label remarkedSource fileName "output".toList
  obtain ⟨line, htrails, -⟩ := hlabel.1 _ hfound
  have hnone := (hlabel.2 _ hread).2
  refine ⟨hfound, hread, ⟨line, htrails⟩, ?_⟩
  by_contra hlines
  exact Option.some_ne_none _ (hnone.mpr fun line hmem hassigns => hlines ⟨line, hmem, hassigns⟩)

/-- An empty output path, below a line that ends with a carriage return. -/
def returnedSource : String :=
  "[generator]\r\noutput = \"\"\r\n"

/-- The label begins at the line feed before the assignment. -/
theorem ofSource_returnedSource :
    ofSource returnedSource fileName =
        .error (.refused fileName (.emptyOutput (some ⟨12, 23⟩))) ∧
      ∀ text, Span.Marks ⟨12, 23⟩ returnedSource.toList text →
        ¬ Label.Assigns "output".toList text := by
  refine ⟨by decide +kernel, fun text htext => ?_⟩
  have hmarked : Span.Marks ⟨12, 23⟩ returnedSource.toList "\noutput = \"".toList :=
    ⟨"[generator]\r".toList, "\"\r\n".toList, by decide +kernel, by decide +kernel⟩
  rw [htext.eq hmarked, ← Label.assigns_iff]
  decide +kernel

end Manifest

end AssetMenu
