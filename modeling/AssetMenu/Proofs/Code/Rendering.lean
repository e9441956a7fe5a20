import AssetMenu.Code.Fragment
import AssetMenu.Proofs.Text.Fields

/-!
# The lines of a rendered fragment

What a fragment yields depends on the fragments before it through the level that
they end at.  A rendered text can be cut into its lines again, as long as none of
them has a line end within.
-/

namespace AssetMenu

namespace Text

variable {cut : Char → Bool}

/-- Texts that are closed by a cut each are the fields of what they make up, and
behind the last cut there is one more that is empty. -/
theorem fields_flatMap_cut {texts : List (List Char)}
    (htexts : ∀ text ∈ texts, ∀ c ∈ text, cut c = false) {c : Char} (hcut : cut c = true) :
    fields cut (texts.flatMap (· ++ [c])) = texts ++ [[]] := by
  induction texts with
  | nil => rfl
  | cons text texts ih =>
      have hfirst := htexts text List.mem_cons_self
      have hrest := ih fun text htext => htexts text (List.mem_cons_of_mem _ htext)
      rw [List.flatMap_cons, List.append_assoc, List.singleton_append,
        fields_append_cut hfirst hcut, hrest]
      rfl

end Text

namespace Code

/-! ## Levels -/

theorem run_append (level : Nat) (first second : Fragment) :
    run level (first ++ second) =
      ((run level first).1 ++ (run (run level first).2 second).1,
        (run (run level first).2 second).2) := by
  induction first generalizing level with
  | nil => rfl
  | cons step rest ih => cases step <;> simp [run, ih]

/-- Fragments that end at the level where they begin do not notice each other. -/
theorem run_each {α : Type} (level : Nat) (items : List α) (fragment : α → Fragment)
    (hlevel : ∀ item ∈ items, (run level (fragment item)).2 = level) :
    run level (each items fragment) =
      (items.flatMap fun item => (run level (fragment item)).1, level) := by
  induction items with
  | nil => rfl
  | cons item items ih =>
      have hfirst := hlevel item List.mem_cons_self
      have hrest := ih fun item hitem => hlevel item (List.mem_cons_of_mem _ hitem)
      rw [each] at hrest
      rw [each, List.flatMap_cons, run_append, hfirst, hrest]
      rfl

/-! ## Lines -/

/-- A line as it is written, without its line end. -/
def Line.written (indent : Indent) : Line → String
  | .text level content => String.join (List.replicate level indent.unit) ++ content
  | .blank => ""

variable {indent : Indent}

theorem render_eq_written (line : Line) : line.render indent = line.written indent ++ "\n" := by
  cases line <;> rfl

theorem renderLines_append (first second : List Line) :
    renderLines indent (first ++ second) =
      renderLines indent first ++ renderLines indent second := by
  simp [renderLines]

theorem renderLines_flatMap {α : Type} (items : List α) (lines : α → List Line) :
    renderLines indent (items.flatMap lines) =
      String.join (items.map fun item => renderLines indent (lines item)) := by
  induction items with
  | nil => rfl
  | cons item items ih =>
      rw [List.flatMap_cons, renderLines_append, ih, List.map_cons, String.join_cons]

theorem toList_renderLines (lines : List Line) :
    (renderLines indent lines).toList =
      ((lines.map (Line.written indent)).map String.toList).flatMap (· ++ ['\n']) := by
  rw [renderLines, String.toList_join]
  simp only [List.flatMap_map, render_eq_written, String.toList_append]
  rfl

/-- The lines of a text, and behind its last line end an empty one. -/
def splitLines (text : String) : List String :=
  (Text.fields (· == '\n') text.toList).map String.ofList

theorem splitLines_renderLines {lines : List Line}
    (hlines : ∀ text ∈ lines.map (Line.written indent), '\n' ∉ text.toList) :
    splitLines (renderLines indent lines) = lines.map (Line.written indent) ++ [""] := by
  have hfields : Text.fields (· == '\n') (renderLines indent lines).toList =
      (lines.map (Line.written indent)).map String.toList ++ [[]] := by
    rw [toList_renderLines]
    apply Text.fields_flatMap_cut _ rfl
    intro text htext c hc
    obtain ⟨line, hline, rfl⟩ := List.mem_map.mp htext
    exact beq_eq_false_iff_ne.mpr fun hnewline => hlines line hline (hnewline ▸ hc)
  rw [splitLines, hfields]
  simp

/-- A literal can be searched without decoding it. -/
theorem not_mem_toList_of_eq {text : String} {c : Char} {chars : List Char}
    (htext : text = String.ofList chars) (hc : c ∉ chars) : c ∉ text.toList := by
  rw [htext, String.toList_ofList]
  exact hc

end Code

end AssetMenu
