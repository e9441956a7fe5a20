import AssetMenu.Emission
import AssetMenu.Plan
import AssetMenu.Proofs.Code.Rendering
import AssetMenu.Proofs.Naming.Outcomes
import AssetMenu.Template.PlainList
import AssetMenu.Template.UnityScript
import Mathlib.Data.List.Nodup

/-!
# The parts of a generated file

A generated file is what a template writes before the entries, a block for each entry in the
order of the numbers, and what the template writes behind them.  If an entry ends at the level
where it begins, every block begins at the same level, and then no part depends on another.
-/

namespace AssetMenu

open Code

/-! ## Entries in order -/

variable {entries permuted : List Resolved}

theorem inOrder_perm (entries : List Resolved) : (inOrder entries).Perm entries :=
  List.mergeSort_perm entries _

theorem pairwise_inOrder (entries : List Resolved) :
    (inOrder entries).Pairwise fun a b => a.ordinal ≤ b.ordinal := by
  have hsorted : (inOrder entries).Pairwise fun a b => decide (a.ordinal ≤ b.ordinal) = true := by
    apply List.pairwise_mergeSort
    · intro a b c hab hbc
      simp only [decide_eq_true_eq] at hab hbc ⊢
      omega
    · intro a b
      simp only [Bool.or_eq_true, decide_eq_true_eq]
      omega
  exact hsorted.imp fun hle => of_decide_eq_true hle

/-- Entries with distinct numbers have a single order. -/
theorem inOrder_eq_of_perm (hordinals : (entries.map (·.ordinal)).Nodup)
    (hperm : permuted.Perm entries) : inOrder permuted = inOrder entries := by
  have hsame : (inOrder permuted).Perm (inOrder entries) :=
    (inOrder_perm permuted).trans (hperm.trans (inOrder_perm entries).symm)
  apply hsame.eq_of_pairwise _ (pairwise_inOrder permuted) (pairwise_inOrder entries)
  intro a b ha hb hab hba
  have hinjective := List.inj_on_of_nodup_map hordinals
  apply hinjective
  · exact hperm.subset ((inOrder_perm permuted).subset ha)
  · exact (inOrder_perm entries).subset hb
  · exact Nat.le_antisymm hab hba

theorem ordinals_increase (hordinals : (entries.map (·.ordinal)).Nodup) :
    ((inOrder entries).map (·.ordinal)).Pairwise (· < ·) := by
  have hnodup : ((inOrder entries).map (·.ordinal)).Nodup :=
    ((inOrder_perm entries).map _).nodup_iff.mpr hordinals
  have hle : ((inOrder entries).map (·.ordinal)).Pairwise (· ≤ ·) :=
    List.pairwise_map.mpr (pairwise_inOrder entries)
  exact (hle.and hnodup).imp fun ⟨hle, hne⟩ => Nat.lt_of_le_of_ne hle hne

/-- The entries of a plan are numbered in their order. -/
theorem Plan.map_ordinal_entries (config : Config) (candidates : List Candidate) :
    (Plan.make config candidates).entries.map (·.ordinal) =
      List.range (Plan.make config candidates).entries.length := by
  rw [List.range_eq_range']
  exact Naming.map_ordinal_resolveFrom _

theorem Plan.ordinal_getElem_entries (config : Config) (candidates : List Candidate) {k : Nat}
    (hk : k < (Plan.make config candidates).entries.length) :
    (Plan.make config candidates).entries[k].ordinal = k := by
  have hordinals := List.getElem_of_eq (Plan.map_ordinal_entries config candidates)
    (by simpa using hk : k < _)
  simpa using hordinals

theorem inOrder_entries (config : Config) (candidates : List Candidate) :
    inOrder (Plan.make config candidates).entries = (Plan.make config candidates).entries := by
  apply List.mergeSort_of_pairwise
  simp only [decide_eq_true_eq]
  apply List.pairwise_map.mp
  rw [Plan.map_ordinal_entries]
  exact List.pairwise_le_range

namespace Template

variable (template : Template) (config : Config)

/-! ## Lines -/

/-- Entries that end at the level where they begin. -/
def KeepsLevel : Prop :=
  ∀ level entry, (run level (template.entry entry)).2 = level

/-- The lines before the first entry. -/
def openingLines : List Line :=
  (run 0 (template.banner ++ template.header)).1

/-- The level that the header leads to. -/
def entryLevel : Nat :=
  (run 0 (template.banner ++ template.header)).2

/-- The lines of an entry, with the blank one behind it. -/
def blockLines (resolved : Resolved) : List Line :=
  (run template.entryLevel (template.entryFragment config resolved)).1

/-- The lines behind the last entry. -/
def closingLines : List Line :=
  (run template.entryLevel (template.helper ++ template.footer ++ [.blank])).1

/-- The steps that the helper follows. -/
def fragmentBeforeHelper (entries : List Resolved) : Fragment :=
  template.banner ++ template.header ++ each (inOrder entries) (template.entryFragment config)

variable {template}

theorem run_fragmentBeforeHelper (hkeeps : template.KeepsLevel) (entries : List Resolved) :
    run 0 (template.fragmentBeforeHelper config entries) =
      (template.openingLines ++ (inOrder entries).flatMap (template.blockLines config),
        template.entryLevel) := by
  have hlevel : ∀ resolved ∈ inOrder entries,
      (run template.entryLevel (template.entryFragment config resolved)).2 =
        template.entryLevel := by
    intro resolved _
    rw [entryFragment, run_append]
    exact hkeeps template.entryLevel (template.menuEntry config resolved)
  have hblocks := run_each template.entryLevel (inOrder entries) _ hlevel
  rw [fragmentBeforeHelper, run_append, ← entryLevel, hblocks]
  rfl

theorem run_fragment (hkeeps : template.KeepsLevel) (entries : List Resolved) :
    (run 0 (template.fragment config entries)).1 =
      template.openingLines ++ (inOrder entries).flatMap (template.blockLines config) ++
        template.closingLines := by
  have hsplit : template.fragment config entries =
      template.fragmentBeforeHelper config entries ++
        (template.helper ++ template.footer ++ [.blank]) := by
    simp [fragment, fragmentBeforeHelper]
  rw [hsplit, run_append, run_fragmentBeforeHelper config hkeeps, closingLines]

/-! ## Texts -/

/-- The text that the helper follows. -/
def textBeforeHelper (template : Template) (config : Config) (entries : List Resolved) : String :=
  render template.indent (template.fragmentBeforeHelper config entries)

/-- The text of an entry, with the blank line behind it. -/
def blockText (template : Template) (config : Config) (resolved : Resolved) : String :=
  renderLines template.indent (template.blockLines config resolved)

/-- The text behind the last entry. -/
def closingText (template : Template) : String :=
  renderLines template.indent template.closingLines

theorem textBeforeHelper_eq (hkeeps : template.KeepsLevel) (entries : List Resolved) :
    template.textBeforeHelper config entries =
      renderLines template.indent template.openingLines ++
        String.join ((inOrder entries).map (template.blockText config)) := by
  rw [textBeforeHelper, render, run_fragmentBeforeHelper config hkeeps, renderLines_append,
    renderLines_flatMap]
  rfl

/-- The helper and all that follows it do not depend on the entries. -/
theorem emit_eq_append (hkeeps : template.KeepsLevel) (entries : List Resolved) :
    template.emit config entries =
      template.textBeforeHelper config entries ++ template.closingText := by
  rw [emit, render, run_fragment config hkeeps, renderLines_append, textBeforeHelper, render,
    run_fragmentBeforeHelper config hkeeps, closingText]

theorem keepsLevel_unityScript : unityScript.KeepsLevel := fun _ _ => rfl

theorem keepsLevel_plainList : plainList.KeepsLevel := fun _ _ => rfl

end Template

end AssetMenu
