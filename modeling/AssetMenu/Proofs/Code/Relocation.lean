import AssetMenu.Proofs.Code.Rendering
import Mathlib.Data.List.Infix

/-!
# Fragments at another level

What a fragment yields at one level it yields at every deeper one, with as many levels more in
front of each line.  A step to the left of where the fragment began is the only thing that could
tell one level from another: at the left margin such a step is lost, and further in it is not.
-/

namespace AssetMenu.Code

variable {depth : Nat} {first second fragment inner : Fragment} {opening closing : String}

/-! ## Steps to the left -/

/-- Up to any of its steps, the fragment goes at most `depth` levels to the left of where it
began. -/
def DipsAtMost (depth : Nat) (fragment : Fragment) : Prop :=
  ∀ start, start <+: fragment → start.count .dedent ≤ depth + start.count .indent

theorem dipsAtMost_nil : DipsAtMost depth [] := by
  intro start hstart
  simp [List.prefix_nil.mp hstart]

theorem dipsAtMost_cons_iff {step : Step} :
    DipsAtMost depth (step :: fragment) ↔
      ∀ start, start <+: fragment →
        (step :: start).count .dedent ≤ depth + (step :: start).count .indent := by
  constructor
  · intro hsteps start hstart
    exact hsteps (step :: start) (List.cons_prefix_cons.mpr ⟨rfl, hstart⟩)
  · intro hsteps start hstart
    rcases List.prefix_cons_iff.mp hstart with rfl | ⟨rest, rfl, hrest⟩
    · simp
    · exact hsteps rest hrest

@[simp] theorem dipsAtMost_line_cons {text : String} :
    DipsAtMost depth (.line text :: fragment) ↔ DipsAtMost depth fragment := by
  rw [dipsAtMost_cons_iff]
  simp [DipsAtMost]

@[simp] theorem dipsAtMost_blank_cons :
    DipsAtMost depth (.blank :: fragment) ↔ DipsAtMost depth fragment := by
  rw [dipsAtMost_cons_iff]
  simp [DipsAtMost]

@[simp] theorem dipsAtMost_indent_cons :
    DipsAtMost depth (.indent :: fragment) ↔ DipsAtMost (depth + 1) fragment := by
  rw [dipsAtMost_cons_iff]
  simp [DipsAtMost, Nat.add_right_comm, ← Nat.add_assoc]

theorem dipsAtMost_dedent_cons_iff :
    DipsAtMost depth (.dedent :: fragment) ↔
      ∃ less, depth = less + 1 ∧ DipsAtMost less fragment := by
  rw [dipsAtMost_cons_iff]
  constructor
  · intro hsteps
    have hone := hsteps [] List.nil_prefix
    simp only [List.count_cons_self, List.count_nil] at hone
    refine ⟨depth - 1, by grind, fun start hstart => ?_⟩
    have hbound := hsteps start hstart
    grind
  · rintro ⟨less, rfl, hless⟩ start hstart
    have hbound := hless start hstart
    grind

/-- A fragment that follows another one begins where that one ends. -/
theorem DipsAtMost.append {ahead : Nat} (hfirst : DipsAtMost depth first)
    (hsecond : DipsAtMost ahead second)
    (hlevel : ahead + first.count .dedent ≤ depth + first.count .indent) :
    DipsAtMost depth (first ++ second) := by
  intro start hstart
  rcases List.prefix_or_prefix_of_prefix hstart (List.prefix_append first second) with
    hwithin | ⟨rest, rfl⟩
  · exact hfirst start hwithin
  · have hrest := hsecond rest ((List.prefix_append_right_inj first).mp hstart)
    simp only [List.count_append]
    omega

theorem DipsAtMost.each {α : Type} {items : List α} {fragment : α → Fragment}
    (hitems : ∀ item ∈ items, DipsAtMost 0 (fragment item)) :
    DipsAtMost 0 (each items fragment) := by
  induction items with
  | nil => exact dipsAtMost_nil
  | cons item items ih =>
      obtain ⟨hitem, hrest⟩ := List.forall_mem_cons.mp hitems
      have hwhole := hitem _ List.prefix_rfl
      exact hitem.append (ih hrest) (by omega)

/-- The step back at the end of a block undoes the one at its beginning. -/
theorem DipsAtMost.block (hinner : DipsAtMost 0 inner) :
    DipsAtMost 0 (block opening closing inner) := by
  have hback : DipsAtMost 1 [.dedent, .line closing] := by
    rw [dipsAtMost_dedent_cons_iff]
    exact ⟨0, rfl, dipsAtMost_line_cons.mpr dipsAtMost_nil⟩
  have hdeeper : DipsAtMost 1 inner := fun start hstart => by
    have hbound := hinner start hstart
    omega
  have hwhole := hinner inner List.prefix_rfl
  simpa [Code.block] using hdeeper.append hback (by omega)

/-! ## Levels -/

theorem run_level_of_dipsAtMost {level : Nat} (hfragment : DipsAtMost level fragment) :
    (run level fragment).2 + fragment.count .dedent = level + fragment.count .indent := by
  induction fragment generalizing level with
  | nil => rfl
  | cons step rest ih =>
      cases step with
      | line text => simpa [run] using ih (dipsAtMost_line_cons.mp hfragment)
      | blank => simpa [run] using ih (dipsAtMost_blank_cons.mp hfragment)
      | indent =>
          have hrest := ih (dipsAtMost_indent_cons.mp hfragment)
          simp [run]
          omega
      | dedent =>
          obtain ⟨less, rfl, hless⟩ := dipsAtMost_dedent_cons_iff.mp hfragment
          have hrest := ih hless
          simp [run]
          omega

/-- A step that is lost at the left margin leaves the level higher than it would be. -/
theorem le_run_level (level : Nat) (fragment : Fragment) :
    level + fragment.count .indent ≤ (run level fragment).2 + fragment.count .dedent := by
  induction fragment generalizing level with
  | nil => rfl
  | cons step rest ih =>
      cases step with
      | line text => simpa [run] using ih level
      | blank => simpa [run] using ih level
      | indent =>
          have hrest := ih (level + 1)
          simp [run]
          omega
      | dedent =>
          have hrest := ih (level - 1)
          simp [run]
          omega

theorem run_each_level {α : Type} {level : Nat} {items : List α} {fragment : α → Fragment}
    (hlevel : ∀ item ∈ items, (run level (fragment item)).2 = level) :
    (run level (each items fragment)).2 = level :=
  congrArg Prod.snd (run_each level items fragment hlevel)

theorem run_block_level {level : Nat} (hinner : (run (level + 1) inner).2 = level + 1) :
    (run level (block opening closing inner)).2 = level := by
  simp [block, run, run_append, hinner]

/-! ## Lines -/

/-- The same line `depth` levels deeper.  A blank line has no level. -/
def Line.deepen (depth : Nat) : Line → Line
  | .text level content => .text (depth + level) content
  | .blank => .blank

/-- A line as it is written, with `depth` more levels in front of it unless it is blank. -/
def Line.renderDeeper (indent : Indent) (depth : Nat) : Line → String
  | .text level content =>
      String.join (List.replicate depth indent.unit) ++ (Line.text level content).render indent
  | .blank => Line.blank.render indent

theorem render_deepen (indent : Indent) (depth : Nat) (line : Line) :
    (line.deepen depth).render indent = line.renderDeeper indent depth := by
  cases line with
  | blank => rfl
  | text level content =>
      simp only [Line.deepen, Line.renderDeeper, Line.render, ← List.replicate_append_replicate,
        String.join_append, String.append_assoc]

theorem run_add (depth : Nat) {level : Nat} (hfragment : DipsAtMost level fragment) :
    run (depth + level) fragment =
      ((run level fragment).1.map (Line.deepen depth), depth + (run level fragment).2) := by
  induction fragment generalizing level with
  | nil => rfl
  | cons step rest ih =>
      cases step with
      | line text => simp [run, ih (dipsAtMost_line_cons.mp hfragment), Line.deepen]
      | blank => simp [run, ih (dipsAtMost_blank_cons.mp hfragment), Line.deepen]
      | indent => simp [run, Nat.add_assoc, ih (dipsAtMost_indent_cons.mp hfragment)]
      | dedent =>
          obtain ⟨less, rfl, hless⟩ := dipsAtMost_dedent_cons_iff.mp hfragment
          simp [run, ← Nat.add_assoc, ih hless]

/-! ## Drafts -/

/-- Wherever the fragment is written, the text so far stays, the lines are those that are written
at the left margin of an empty text, moved in by the level at hand, and the level changes by what
it changes by there. -/
structure Relocates (fragment : Fragment) : Prop where
  text_write : ∀ (indent : Indent) (draft : Draft),
    (draft.write fragment).text indent =
      draft.text indent ++
        String.join ((Draft.empty.write fragment).lines.map (Line.renderDeeper indent draft.level))
  level_write : ∀ draft : Draft,
    (draft.write fragment).level = draft.level + (Draft.empty.write fragment).level

theorem relocates_of_dipsAtMost (hfragment : DipsAtMost 0 fragment) : Relocates fragment where
  text_write indent draft := by
    have hrun := run_add draft.level hfragment
    rw [Nat.add_zero] at hrun
    simp [Draft.write, Draft.text, Draft.empty, hrun, renderLines, Function.comp_def,
      render_deepen]
  level_write draft := by
    have hrun := run_add draft.level hfragment
    rw [Nat.add_zero] at hrun
    simp [Draft.write, Draft.empty, hrun]

/-- Far from the left margin no step is lost.  If the level changes by the same amount at the
margin, no step is lost there either. -/
theorem dipsAtMost_of_relocates (hfragment : Relocates fragment) : DipsAtMost 0 fragment := by
  rintro start ⟨rest, rfl⟩
  have hfar : DipsAtMost ((start ++ rest).count .dedent) (start ++ rest) := by
    intro other hother
    have hcount := hother.sublist.count_le .dedent
    omega
  have hlevel := hfragment.level_write ⟨[], (start ++ rest).count .dedent⟩
  have hmargin := le_run_level (run 0 start).2 rest
  have hexact := run_level_of_dipsAtMost hfar
  simp only [Draft.write, Draft.empty, run_append, List.count_append] at hlevel hexact
  omega

/-- A fragment yields the same lines wherever it is written exactly if it never goes to the left of
where it began.  Blocks and repetitions of such fragments are such fragments, at any depth, and
they end at the level where they begin if what they are made of does. -/
theorem write_relocates :
    (∀ fragment, Relocates fragment ↔ DipsAtMost 0 fragment) ∧
    (∀ opening closing inner, DipsAtMost 0 inner → DipsAtMost 0 (block opening closing inner)) ∧
    (∀ {α : Type} (items : List α) (fragment : α → Fragment),
      (∀ item ∈ items, DipsAtMost 0 (fragment item)) → DipsAtMost 0 (each items fragment)) ∧
    (∀ level opening closing inner, (run (level + 1) inner).2 = level + 1 →
      (run level (block opening closing inner)).2 = level) ∧
    ∀ {α : Type} (level : Nat) (items : List α) (fragment : α → Fragment),
      (∀ item ∈ items, (run level (fragment item)).2 = level) →
        (run level (each items fragment)).2 = level := by
  refine ⟨fun fragment => ⟨dipsAtMost_of_relocates, relocates_of_dipsAtMost⟩, ?_, ?_, ?_, ?_⟩
  · intro opening closing inner hinner
    exact hinner.block
  · intro α items fragment hitems
    exact DipsAtMost.each hitems
  · intro level opening closing inner hinner
    exact run_block_level hinner
  · intro α level items fragment hitems
    exact run_each_level hitems

/-- A comment and a block for an item, with a blank line and a step to the right in the block. -/
def itemFragment (item : String) : Fragment :=
  comment "//" item ++
    block "\x7b" "\x7d" [.line item, .blank, .indent, .line "further in", .dedent]

/-- The items in a block, three levels further in than where they begin by themselves. -/
theorem write_itemFragments :
    DipsAtMost 0 (block "begin" "end" (each ["a", "b"] itemFragment)) ∧
      (run 3 (block "begin" "end" (each ["a", "b"] itemFragment))).2 = 3 ∧
      ((⟨[.text 0 "here"], 3⟩ : Draft).write
          (block "begin" "end" (each ["a", "b"] itemFragment))).text (.spaces 1) =
        "here\n   begin\n    // a\n    \x7b\n     a\n\n      further in\n    \x7d\n" ++
          "    // b\n    \x7b\n     b\n\n      further in\n    \x7d\n   end\n" := by
  obtain ⟨hrelocates, hblock, heach, hblockLevel, heachLevel⟩ := write_relocates
  have hitem : ∀ item ∈ ["a", "b"], DipsAtMost 0 (itemFragment item) := by
    intro item _
    apply dipsAtMost_line_cons.mpr
    apply hblock
    simp [dipsAtMost_dedent_cons_iff, dipsAtMost_nil]
  have hwhole := hblock "begin" "end" _ (heach ["a", "b"] itemFragment hitem)
  have hlevel : (run 3 (block "begin" "end" (each ["a", "b"] itemFragment))).2 = 3 :=
    hblockLevel 3 "begin" "end" _ (heachLevel 4 ["a", "b"] itemFragment fun item _ => rfl)
  refine ⟨hwhole, hlevel, ?_⟩
  rw [((hrelocates _).mpr hwhole).text_write]
  decide +kernel

end AssetMenu.Code
