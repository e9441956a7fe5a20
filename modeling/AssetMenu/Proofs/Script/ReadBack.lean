import AssetMenu.Proofs.Emission.Parts
import AssetMenu.Proofs.Script.Blocks

/-!
# Reading the editor script back

The script is thirteen fixed lines, a block of eight lines for each entry in the
order of their numbers, and thirteen fixed lines again.  So a block is found by
counting lines, and it tells what its entry is.  Scripts of the same text therefore
come from entries that differ in nothing that the blocks tell.
-/

namespace AssetMenu

open Code

variable {entries : List Resolved}

namespace Template.UnityScript

/-! ## The lines of the script -/

/-- The lines before the first block. -/
def opening : List String :=
  [ "//------------------------------------------------------------------------------",
    "// <auto-generated>",
    "//     This code was generated by menugen.",
    "//     Changes to this file will be lost when the code is regenerated.",
    "// </auto-generated>",
    "//------------------------------------------------------------------------------",
    "",
    "#if UNITY_EDITOR",
    "",
    "namespace Menugen._AutoGenerated",
    "\x7b",
    "\tinternal class __CreateItemMenuMethods",
    "\t\x7b" ]

/-- The lines behind the last block. -/
def closing : List String :=
  [ "\t\t// Utility method for creating asset instances",
    "\t\tprivate static void _CreateAsset(UnityEngine.ScriptableObject instance)",
    "\t\t\x7b",
    "\t\t\tvar path = UnityEditor.AssetDatabase.GetAssetPath(UnityEditor.Selection.activeObject);",
    "\t\t\tvar assetPath = path + \"/New Asset.asset\";",
    "\t\t\tUnityEditor.ProjectWindowUtil.CreateAsset(instance, assetPath);",
    "\t\t\tUnityEditor.AssetDatabase.Refresh();",
    "\t\t\tUnityEditor.AssetDatabase.SaveAssets();",
    "\t\t\x7d",
    "\t\x7d",
    "\x7d",
    "#endif",
    "" ]

theorem written_openingLines :
    unityScript.openingLines.map (Line.written .tab) = opening := by
  rfl

theorem written_closingLines :
    unityScript.closingLines.map (Line.written .tab) = closing := by
  rfl

theorem newline_not_mem_opening : ∀ line ∈ opening, '\n' ∉ line.toList := by
  simp only [opening, List.forall_mem_cons, List.not_mem_nil, false_implies, implies_true,
    and_true]
  and_intros
  all_goals
    apply not_mem_toList_of_eq rfl
    decide

theorem newline_not_mem_closing : ∀ line ∈ closing, '\n' ∉ line.toList := by
  simp only [closing, List.forall_mem_cons, List.not_mem_nil, false_implies, implies_true,
    and_true]
  and_intros
  all_goals
    apply not_mem_toList_of_eq rfl
    decide

theorem written_fragment (config : Config) (entries : List Resolved) :
    (run 0 (unityScript.fragment config entries)).1.map (Line.written .tab) =
      opening ++ ((inOrder entries).flatMap (entryBlock config) ++ closing) := by
  rw [run_fragment config keepsLevel_unityScript, List.append_assoc, List.map_append,
    List.map_append, written_openingLines, written_closingLines, List.map_flatMap]
  rfl

/-- The script cut into lines.  It ends with a line end, so there is an empty rest. -/
theorem splitLines_emit (config : Config)
    (hnames : ∀ resolved ∈ entries, '\n' ∉ resolved.candidate.type.fullName.toList) :
    splitLines (unityScript.emit config entries) =
      opening ++ ((inOrder entries).flatMap (entryBlock config) ++ (closing ++ [""])) := by
  have hlines : ∀ line ∈
      (run 0 (unityScript.fragment config entries)).1.map (Line.written .tab),
        '\n' ∉ line.toList := by
    intro line hline
    rw [written_fragment, List.mem_append, List.mem_append, List.mem_flatMap] at hline
    rcases hline with hopening | ⟨resolved, hresolved, hblock⟩ | hclosing
    · exact newline_not_mem_opening line hopening
    · have hmem := (inOrder_perm entries).subset hresolved
      exact newline_not_mem_entryBlock config (hnames resolved hmem) line hblock
    · exact newline_not_mem_closing line hclosing
  have hsplit := splitLines_renderLines hlines
  rw [written_fragment, List.append_assoc, List.append_assoc] at hsplit
  exact hsplit

/-! ## Finding a block -/

/-- The lines of the block that has `k` blocks before it. -/
def blockAt (script : String) (k : Nat) : List String :=
  ((splitLines script).drop (13 + 8 * k)).take 8

/-- Pieces of one size are found by counting. -/
theorem take_drop_flatMap {α β : Type} {items : List α} {piece : α → List β} {size : Nat}
    (hsize : ∀ item, (piece item).length = size) (rest : List β) {k : Nat}
    (hk : k < items.length) :
    ((items.flatMap piece ++ rest).drop (size * k)).take size = piece items[k] := by
  induction items generalizing k with
  | nil => contradiction
  | cons item items ih =>
      rw [List.flatMap_cons, List.append_assoc]
      cases k with
      | zero =>
          rw [Nat.mul_zero, List.drop_zero]
          exact List.take_left' (hsize item)
      | succ k =>
          have hnext : size * (k + 1) = (piece item).length + size * k := by
            rw [hsize, Nat.mul_succ, Nat.add_comm]
          rw [hnext, List.drop_length_add_append]
          exact ih (Nat.lt_of_succ_lt_succ hk)

/-- A script that consists of a block for each of the entries, and of nothing else
that would depend on them. -/
structure ReadsBack (config : Config) (ordered : List Resolved) (script : String) : Prop where
  opening_eq : (splitLines script).take 13 = opening
  blocks_eq : ∀ (k : Nat) (hk : k < ordered.length),
    readBlock? (blockAt script k) = some (blockData config ordered[k])
  closing_eq : (splitLines script).drop (13 + 8 * ordered.length) = closing ++ [""]

theorem readsBack_emit (config : Config)
    (hnames : ∀ resolved ∈ entries, '\n' ∉ resolved.candidate.type.fullName.toList) :
    ReadsBack config (inOrder entries) (unityScript.emit config entries) := by
  have hlines := splitLines_emit config hnames
  have hblocks : ((inOrder entries).flatMap (entryBlock config)).length =
      8 * (inOrder entries).length := by
    simp [List.length_flatMap, length_entryBlock, Nat.mul_comm]
  constructor
  case opening_eq =>
    rw [hlines]
    rfl
  case blocks_eq =>
    intro k hk
    have hblock : blockAt (unityScript.emit config entries) k =
        entryBlock config (inOrder entries)[k] := by
      rw [blockAt, hlines, ← List.drop_drop]
      exact take_drop_flatMap (length_entryBlock config) _ hk
    rw [hblock]
    exact readBlock?_entryBlock config _
  case closing_eq =>
    rw [hlines, ← List.drop_drop]
    exact List.drop_left' hblocks

/-- What is read back depends on nothing but the script. -/
theorem ReadsBack.map_blockData_eq {config config' : Config}
    {ordered ordered' : List Resolved} {script : String}
    (hleft : ReadsBack config ordered script) (hright : ReadsBack config' ordered' script) :
    ordered.map (blockData config) = ordered'.map (blockData config') := by
  have hlength : ordered.length = ordered'.length := by
    have hleft' := congrArg List.length hleft.closing_eq
    have hright' := congrArg List.length hright.closing_eq
    simp only [List.length_drop, List.length_append, closing, List.length_cons,
      List.length_nil] at hleft' hright'
    omega
  apply List.ext_getElem
  · simpa using hlength
  · intro k hk hk'
    rw [List.length_map] at hk hk'
    have hsame := (hleft.blocks_eq k hk).symm.trans (hright.blocks_eq k hk')
    simpa using hsame

/-- Entries with distinct numbers can be read back from their script, as long as the
names of their types do not break a line.  No other part of them needs a promise, and
entries that differ in what can be read have different scripts. -/
theorem emit_reads_back (config : Config) {entries : List Resolved}
    (hordinals : (entries.map (·.ordinal)).Nodup)
    (hnames : ∀ resolved ∈ entries, '\n' ∉ resolved.candidate.type.fullName.toList) :
    (∃ ordered, ordered.Perm entries ∧ (ordered.map (·.ordinal)).Pairwise (· < ·) ∧
      ReadsBack config ordered (unityScript.emit config entries)) ∧
    (∀ permuted, permuted.Perm entries →
      unityScript.emit config permuted = unityScript.emit config entries) ∧
    ∀ (config' : Config) (others : List Resolved),
      (∀ resolved ∈ others, '\n' ∉ resolved.candidate.type.fullName.toList) →
        unityScript.emit config' others = unityScript.emit config entries →
          (others.map (blockData config')).Perm (entries.map (blockData config)) := by
  have hreads := readsBack_emit config hnames
  refine ⟨⟨inOrder entries, inOrder_perm entries, ordinals_increase hordinals, hreads⟩, ?_, ?_⟩
  · intro permuted hperm
    rw [Template.emit, Template.emit, Template.fragment, Template.fragment,
      inOrder_eq_of_perm hordinals hperm]
  · intro config' others hothers hsame
    have hother := readsBack_emit config' hothers
    rw [hsame] at hother
    calc
      (others.map (blockData config')).Perm ((inOrder others).map (blockData config')) :=
        ((inOrder_perm others).map _).symm
      _ = (inOrder entries).map (blockData config) := hother.map_blockData_eq hreads
      List.Perm _ (entries.map (blockData config)) := (inOrder_perm entries).map _

/-- Entries with quotes and line ends in what is arbitrary about them, not in order. -/
def oddEntries : List Resolved :=
  let candidate (name assembly : String) (order : Option Int) : Candidate :=
    ⟨⟨name, some assembly, false, false, true, []⟩, ⟨Affixes.none, order⟩⟩
  [ ⟨candidate "N.B" "X\n\t\t\x7d" (some (-3)), "B\", priority = 9)]\n", 4⟩,
    ⟨candidate "N.A+C" "Y\r\n" none, "\\n", 1⟩ ]

theorem emit_oddEntries :
    (oddEntries.map (·.ordinal)).Nodup ∧
      (∀ resolved ∈ oddEntries, '\n' ∉ resolved.candidate.type.fullName.toList) ∧
      ∃ ordered, ordered.Perm oddEntries ∧ (ordered.map (·.ordinal)).Pairwise (· < ·) ∧
        ReadsBack (Config.ofOutput ⟨"M.cs"⟩) ordered
          (unityScript.emit (Config.ofOutput ⟨"M.cs"⟩) oddEntries) := by
  have hordinals : (oddEntries.map (·.ordinal)).Nodup := by decide
  have hnames : ∀ resolved ∈ oddEntries, '\n' ∉ resolved.candidate.type.fullName.toList := by
    decide
  exact ⟨hordinals, hnames, (emit_reads_back _ hordinals hnames).1⟩

end Template.UnityScript

end AssetMenu
