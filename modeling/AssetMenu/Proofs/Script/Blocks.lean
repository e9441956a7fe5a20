import AssetMenu.Emission
import AssetMenu.Proofs.Code.Rendering
import AssetMenu.Proofs.Template.Literal
import AssetMenu.Proofs.Text.Digits
import AssetMenu.Proofs.TypeName.Characters
import AssetMenu.Template.UnityScript
import Mathlib.Data.List.Basic

/-!
# Reading the blocks of the editor script

Each entry has a block of eight lines in the script.  Three of them say what the
entry is: the attribute, the head of the method, and the line that creates the
instance.  They are read by what they begin and end with, and the menu path by its
closing quote, since a path may well contain text that looks like the rest of the
line.
-/

namespace AssetMenu.Template.UnityScript

open Code

/-! ## Readers -/

/-- What a line holds between two fixed texts. -/
def between? (before after : String) (line : List Char) : Option (List Char) :=
  (line.dropPrefix? before.toList).bind (·.dropSuffix? after.toList)

theorem between?_eq_some {before after : String} {line middle : List Char}
    (hline : line = before.toList ++ middle ++ after.toList) :
    between? before after line = some middle := by
  have hrest : line.dropPrefix? before.toList = some (middle ++ after.toList) :=
    List.dropPrefix?_eq_some_iff.mpr ⟨before.toList, by simp [hline], beq_self_eq_true _⟩
  rw [between?, hrest]
  exact List.dropSuffix?_eq_some_iff.mpr ⟨after.toList, rfl, beq_self_eq_true _⟩

/-- The menu path and the priority that an attribute names. -/
def readAttribute? (line : String) : Option (String × Int) := do
  let quoted ← between? "\t\t[UnityEditor.MenuItem(\"" ")]" line.toList
  let (path, rest) ← literal? quoted
  let digits ← between? ", priority = " "" rest
  return (String.ofList path, Text.integer digits)

/-- The number of a method. -/
def readMethod? (line : String) : Option Nat :=
  (between? "\t\tprivate static void _Generate" "()" line.toList).map Text.natural

/-- The type that an instance is created of. -/
def readInstance? (line : String) : Option String :=
  (between? "\t\t\tvar item = UnityEngine.ScriptableObject.CreateInstance(typeof(" "));"
    line.toList).map String.ofList

/-- What a block says of its entry. -/
structure BlockData where
  ordinal : Nat
  menuPath : String
  priority : Int
  typeName : String
  deriving DecidableEq, Repr

def readBlock? : List String → Option BlockData
  | [_, marking, method, _, creation, _, _, _] => do
      let (menuPath, priority) ← readAttribute? marking
      let ordinal ← readMethod? method
      let typeName ← readInstance? creation
      return { ordinal, menuPath, priority, typeName }
  | _ => none

/-- What there is to say of a named candidate. -/
def blockData (config : Config) (resolved : Resolved) : BlockData where
  ordinal := resolved.ordinal
  menuPath := "Assets/Create/" ++ resolved.identifier
  priority := resolved.candidate.tag.order.getD config.order
  typeName := resolved.candidate.type.sourceName

/-! ## Blocks -/

/-- The lines of an entry as they are written. -/
def entryBlock (config : Config) (resolved : Resolved) : List String :=
  (run 2 (unityScript.entryFragment config resolved)).1.map (Line.written .tab)

theorem run_entryFragment (config : Config) (resolved : Resolved) :
    run 2 (unityScript.entryFragment config resolved) =
      let entry := unityScript.menuEntry config resolved
      ([ .text 2 ("//" ++ " " ++ ("Menu item for '" ++ singleLine entry.qualifiedName ++ "'")),
        .text 2 (attributeLine entry),
        .text 2 ("private static void _Generate" ++ toString entry.ordinal ++ "()"),
        .text 2 "\x7b",
        .text 3 (instanceLine entry),
        .text 3 "_CreateAsset(item);",
        .text 2 "\x7d",
        .blank ], 2) := rfl

theorem length_entryBlock (config : Config) (resolved : Resolved) :
    (entryBlock config resolved).length = 8 := rfl

theorem readAttribute?_attributeLine (entry : MenuEntry) :
    readAttribute? (Line.written .tab (.text 2 (attributeLine entry))) =
      some (entry.menuPath, entry.priority) := by
  have hquoted : between? "\t\t[UnityEditor.MenuItem(\"" ")]"
      (Line.written .tab (.text 2 (attributeLine entry))).toList =
        some (entry.menuPath.toList.flatMap escapeChar ++
          '"' :: (", priority = ".toList ++ (toString entry.priority).toList)) := by
    apply between?_eq_some
    simp [Line.written, attributeLine, api, escape, Indent.unit]
  have hread := literal?_escape entry.menuPath.toList
    (", priority = ".toList ++ (toString entry.priority).toList)
  have hdigits : between? ", priority = " ""
      (", priority = ".toList ++ (toString entry.priority).toList) =
        some (toString entry.priority).toList := between?_eq_some (by simp)
  have hpriority : Text.integer (toString entry.priority).toList = entry.priority :=
    Text.integer_repr entry.priority
  simp only [readAttribute?, hquoted, hread, hdigits, hpriority, String.ofList_toList,
    Option.bind_eq_bind, Option.bind_some, Option.pure_def]

theorem readMethod?_method (ordinal : Nat) :
    readMethod? (Line.written .tab
      (.text 2 ("private static void _Generate" ++ toString ordinal ++ "()"))) =
        some ordinal := by
  have hdigits : between? "\t\tprivate static void _Generate" "()" (Line.written .tab
      (.text 2 ("private static void _Generate" ++ toString ordinal ++ "()"))).toList =
        some (toString ordinal).toList := by
    apply between?_eq_some
    simp [Line.written, Indent.unit]
  rw [readMethod?, hdigits, Option.map_some]
  exact congrArg some (Text.natural_repr ordinal)

theorem readInstance?_instanceLine (entry : MenuEntry) :
    readInstance? (Line.written .tab (.text 3 (instanceLine entry))) = some entry.typeName := by
  have hname : between?
      "\t\t\tvar item = UnityEngine.ScriptableObject.CreateInstance(typeof(" "));"
      (Line.written .tab (.text 3 (instanceLine entry))).toList =
        some entry.typeName.toList := by
    apply between?_eq_some
    simp [Line.written, instanceLine, api, Indent.unit]
  rw [readInstance?, hname, Option.map_some, String.ofList_toList]

/-- A block alone tells all that the script has to say of an entry. -/
theorem readBlock?_entryBlock (config : Config) (resolved : Resolved) :
    readBlock? (entryBlock config resolved) = some (blockData config resolved) := by
  have hmarking := readAttribute?_attributeLine (unityScript.menuEntry config resolved)
  have hmethod := readMethod?_method (unityScript.menuEntry config resolved).ordinal
  have hcreation := readInstance?_instanceLine (unityScript.menuEntry config resolved)
  simp only [entryBlock, run_entryFragment, List.map_cons, List.map_nil, readBlock?, hmarking,
    hmethod, hcreation, Option.bind_eq_bind, Option.bind_some, Option.pure_def]
  rfl

/-! ## Line ends -/

theorem newline_not_mem_sourceName {type : TypeInfo} (htype : '\n' ∉ type.fullName.toList) :
    '\n' ∉ type.sourceName.toList :=
  fun hnewline => htype (mem_of_mem_sourceName (by decide) hnewline)

theorem newline_not_mem_written {level : Nat} {content : String}
    (hcontent : '\n' ∉ content.toList) :
    '\n' ∉ (Line.written .tab (.text level content)).toList := by
  have htabs : '\n' ∉ (String.join (List.replicate level Indent.tab.unit)).toList := by
    rw [String.toList_join, List.mem_flatMap]
    rintro ⟨unit, hunit, hmem⟩
    rw [List.eq_of_mem_replicate hunit] at hmem
    simp [Indent.unit] at hmem
  rw [Line.written, String.toList_append, List.mem_append]
  exact not_or.mpr ⟨htabs, hcontent⟩

theorem newline_not_mem_attributeLine (entry : MenuEntry) :
    '\n' ∉ (attributeLine entry).toList := by
  simp [attributeLine, api, newline_not_mem_escape, Text.newline_not_mem_repr]

/-- The full name is the only part of a candidate that could break a line. -/
theorem newline_not_mem_entryBlock (config : Config) {resolved : Resolved}
    (htype : '\n' ∉ resolved.candidate.type.fullName.toList) :
    ∀ line ∈ entryBlock config resolved, '\n' ∉ line.toList := by
  have hname : '\n' ∉ (unityScript.menuEntry config resolved).typeName.toList :=
    newline_not_mem_sourceName htype
  simp only [entryBlock, run_entryFragment, List.map_cons, List.map_nil, List.forall_mem_cons]
  refine ⟨?comment, ?marking, ?method, ?opened, ?creation, ?call, ?closed, ?blank⟩
  case comment =>
    apply newline_not_mem_written
    simp [newline_not_mem_singleLine]
  case marking =>
    apply newline_not_mem_written
    exact newline_not_mem_attributeLine _
  case method =>
    apply newline_not_mem_written
    simp [Text.newline_not_mem_toDigits]
  case creation =>
    apply newline_not_mem_written
    simp [instanceLine, api, hname]
  case opened => exact newline_not_mem_written (by decide)
  case call => exact newline_not_mem_written (by decide)
  case closed => exact newline_not_mem_written (by decide)
  case blank => simp [Line.written]

end AssetMenu.Template.UnityScript
