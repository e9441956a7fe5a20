import AssetMenu.Manifest.Starter
import AssetMenu.Plan
import AssetMenu.Proofs.Document.Drafts
import AssetMenu.Proofs.Registry.Lineage
import AssetMenu.Proofs.TypeName.Characters

/-!
# The starter manifest is read back

The text of the starter manifest is laid out in four sections, so the document that is
read from it is known, whatever the starter was told.  Decoding turns that document into
a manifest of three types in a row, which passes the checks and plans one entry for the
type at the end of the row.
-/

namespace AssetMenu

/-- An integer of 64 bits is decoded as itself. -/
theorem Decode.integer_eq_ok {value : Int} (hmin : minInteger ≤ value) (hmax : value ≤ maxInteger)
    (span : Document.Span) : integer (.scalar span (.integer (some value))) = .ok value := by
  have hrange : minInteger ≤ value ∧ value < 0x10000000000000000 := by
    have hbound : value ≤ 0x7FFFFFFFFFFFFFFF := hmax
    exact ⟨hmin, by omega⟩
  simp [integer, shape, scalarShape, integerShape, hrange, hmax, bind, Except.bind]

namespace Starter

open Document

variable {starter : Starter}

/-- The type between the base type and the tagged one. -/
def itemName : String := "Game.Items.Item"

/-- The tagged type. -/
def swordName : String := "Game.Items.Sword"

/-- What a starter may be told. -/
structure Admissible (starter : Starter) : Prop where
  output_ne_empty : starter.output ≠ ""
  minInteger_le_order : Decode.minInteger ≤ starter.order
  order_le_maxInteger : starter.order ≤ Decode.maxInteger
  baseType_isTypeName : isTypeName starter.baseType = true
  baseType_ne_itemName : starter.baseType ≠ itemName
  baseType_ne_swordName : starter.baseType ≠ swordName

theorem admissible_standard : standard.Admissible where
  output_ne_empty := by decide
  minInteger_le_order := by decide
  order_le_maxInteger := by decide
  baseType_isTypeName := by decide +kernel
  baseType_ne_itemName := by decide
  baseType_ne_swordName := by decide

theorem itemName_ne_swordName : itemName ≠ swordName := by
  decide

/-! ## The text in sections -/

def explanationLines : List Line :=
  [ .comment " Declare the asset types of your project. Every type needs an ancestor".toList,
    .comment " chain that reaches the base type through `extends`.".toList,
    .comment [],
    .comment " A `menu` table tags the type for generation. Untagged types are only".toList,
    .comment " used to resolve inheritance.".toList ]

/-- The explanation of the types stands behind the settings, and belongs to them. -/
def settingsDraft (starter : Starter) : Draft where
  outer := none
  name := "generator"
  pairs :=
    [ ("output", .text starter.output),
      ("order", .integer starter.order),
      ("prefix", .text ""),
      ("suffix", .text ""),
      ("base_type", .text starter.baseType) ]
  filler := .blank :: explanationLines ++ [.blank]

def baseDraft (starter : Starter) : Draft where
  outer := some "types"
  name := starter.baseType
  pairs := [("assembly", .text "UnityEngine.CoreModule")]
  filler := [.blank]

def itemDraft (starter : Starter) : Draft where
  outer := some "types"
  name := itemName
  pairs :=
    [ ("assembly", .text "Assembly-CSharp"),
      ("extends", .text starter.baseType),
      ("abstract", .boolean true) ]
  filler := [.blank]

def swordDraft : Draft where
  outer := some "types"
  name := swordName
  pairs :=
    [ ("assembly", .text "Assembly-CSharp"),
      ("extends", .text itemName),
      ("menu", .braces "prefix" "Items/") ]
  filler := []

def drafts (starter : Starter) : List Draft :=
  [starter.settingsDraft, starter.baseDraft, starter.itemDraft, swordDraft]

theorem toList_explanation : explanation.toList = Line.layout explanationLines := by
  unfold explanation explanationLines
  simp only [String.toList_append, Line.layout, List.flatMap_cons, List.flatMap_nil, Line.write,
    String.reduceToList]
  rfl

theorem toList_settings (starter : Starter) :
    (starter.settingsText ++ "\n" ++ explanation ++ "\n").toList =
      Line.layout starter.settingsDraft.lines := by
  have hempty : printText "".toList = "\"\"".toList := rfl
  have horder : toString starter.order = starter.order.repr := rfl
  rw [String.toList_append, String.toList_append, toList_explanation]
  unfold settingsText settingsDraft quote
  simp only [String.toList_append, String.toList_ofList, Draft.lines, Draft.header, List.map_cons,
    List.map_nil, Line.layout, List.flatMap_append, List.flatMap_cons, List.flatMap_nil, Line.write,
    Datum.write, hempty, horder]
  simp

set_option maxRecDepth 1000 in
theorem toList_types (starter : Starter) :
    starter.typesText.toList =
      Line.layout (starter.baseDraft.lines ++ starter.itemDraft.lines ++ swordDraft.lines) := by
  -- the texts that are the same in all starters are written with their quotes
  have hengine : printText "UnityEngine.CoreModule".toList =
      "\"UnityEngine.CoreModule\"".toList := by decide +kernel
  have hassembly : printText "Assembly-CSharp".toList = "\"Assembly-CSharp\"".toList := by
    decide +kernel
  have hitem : printText "Game.Items.Item".toList = "\"Game.Items.Item\"".toList := by
    decide +kernel
  have hsword : printText "Game.Items.Sword".toList = "\"Game.Items.Sword\"".toList := by
    decide +kernel
  have hmenu : printText "Items/".toList = "\"Items/\"".toList := by decide +kernel
  unfold typesText baseDraft itemDraft swordDraft quote itemName swordName
  simp only [String.toList_append, String.toList_ofList, Draft.lines, Draft.header, List.map_cons,
    List.map_nil, Line.layout, List.flatMap_append, List.flatMap_cons, List.flatMap_nil,
    Line.write, Datum.write, hengine, hassembly, hitem, hsword, hmenu]
  simp

theorem toList_text (starter : Starter) :
    starter.text.toList = Line.layout (starter.drafts.flatMap Draft.lines) := by
  have htext : starter.text =
      starter.settingsText ++ "\n" ++ explanation ++ "\n" ++ starter.typesText := rfl
  rw [htext, String.toList_append, toList_settings, toList_types, ← Line.layout_append, drafts]
  simp

/-! ## The document -/

/-- The document of a starter, where the declarations stand at the given places. -/
def document (starter : Starter) (baseAt itemAt swordAt : Nat) : Table :=
  let settings := starter.settingsDraft.sectionAt 0
  let declarations :=
    [starter.baseDraft.sectionAt baseAt, starter.itemDraft.sectionAt itemAt,
      swordDraft.sectionAt swordAt]
  let outer := bareKey "types" (baseAt + 1)
  ((Table.empty ⟨0, 0⟩ .header).append settings.path.last settings.table.toNode).append outer
    (Section.group outer (declarations.map fun s => (s.path.last, s.table.toNode)))

/-- No character of a type name needs an escape, and none is a quote. -/
theorem isQuotedKey_of_isTypeName {name : String} (hname : isTypeName name = true) :
    isQuotedKey name = true := by
  have hascii : ∀ n < 128, Printer.isSpecial (Char.ofNat n) = true →
      ¬ (TypeName.isSeparator (Char.ofNat n) = true ∨ Char.ofNat n = TypeName.arityMark ∨
        TypeName.isIdentifierPart (Char.ofNat n) = true) := by
    decide +kernel
  apply isQuotedKey_of_forall_not_isSpecial
  intro c hc
  rw [← Bool.not_eq_true]
  intro hspecial
  have hnone := hascii c.toNat (Printer.toNat_lt_of_isSpecial hspecial)
  rw [Char.ofNat_toNat] at hnone
  exact hnone hspecial (TypeName.mem_of_isQualified hname hc)

theorem wellFormed_settingsDraft (starter : Starter) : starter.settingsDraft.WellFormed where
  lines := by
    simp only [Draft.lines, Draft.header, settingsDraft, List.map_cons, List.map_nil,
      List.all_append, List.all_cons, List.all_nil, Line.isWellFormed, Datum.isWellFormed]
    decide
  filler := rfl
  nodup := by
    simp [settingsDraft]

theorem wellFormed_baseDraft (hbase : isTypeName starter.baseType = true) :
    starter.baseDraft.WellFormed where
  lines := by
    simp only [Draft.lines, Draft.header, baseDraft, List.map_cons, List.map_nil,
      List.all_append, List.all_cons, List.all_nil, Line.isWellFormed, Datum.isWellFormed,
      isQuotedKey_of_isTypeName hbase]
    decide
  filler := rfl
  nodup := by
    simp [baseDraft]

theorem wellFormed_itemDraft (starter : Starter) : starter.itemDraft.WellFormed where
  lines := by
    simp only [Draft.lines, Draft.header, itemDraft, List.map_cons, List.map_nil,
      List.all_append, List.all_cons, List.all_nil, Line.isWellFormed, Datum.isWellFormed]
    decide
  filler := rfl
  nodup := by
    simp [itemDraft]

theorem wellFormed_swordDraft : swordDraft.WellFormed where
  lines := rfl
  filler := rfl
  nodup := by
    decide

theorem wellFormed_drafts (hbase : isTypeName starter.baseType = true) :
    ∀ draft ∈ starter.drafts, draft.WellFormed := by
  simp only [drafts, List.forall_mem_cons, List.not_mem_nil, false_imp_iff, implies_true, and_true]
  exact ⟨wellFormed_settingsDraft starter, wellFormed_baseDraft hbase, wellFormed_itemDraft starter,
    wellFormed_swordDraft⟩

/-- The settings are the first entry of the document.  The base type opens the group of the
types, which the other two join. -/
theorem exists_ofSource? (hstarter : starter.Admissible) :
    ∃ baseAt itemAt swordAt, Document.ofSource? starter.text.toList =
      some (starter.document baseAt itemAt swordAt) := by
  obtain ⟨baseAt, itemAt, swordAt, hsections⟩ : ∃ baseAt itemAt swordAt,
      Draft.sectionsFrom 0 starter.drafts =
        [starter.settingsDraft.sectionAt 0, starter.baseDraft.sectionAt baseAt,
          starter.itemDraft.sectionAt itemAt, swordDraft.sectionAt swordAt] := ⟨_, _, _, rfl⟩
  refine ⟨baseAt, itemAt, swordAt, ?_⟩
  rw [toList_text]
  apply ofSource?_layout (wellFormed_drafts hstarter.baseType_isTypeName)
  rw [hsections, List.foldlM_cons, Section.place_eq_append rfl rfl, Option.bind_eq_bind,
    Option.bind_some, List.foldlM_cons,
    Section.place_eq_append_group (bareKey "types" (baseAt + 1)) rfl rfl,
    Option.bind_eq_bind, Option.bind_some]
  apply Section.foldlM_place_group
  · simp only [List.forall_mem_cons, List.not_mem_nil, false_imp_iff, implies_true, and_true]
    exact ⟨⟨_, rfl, rfl⟩, ⟨_, rfl, rfl⟩⟩
  · rfl
  · change [starter.baseType, itemName, swordName].Nodup
    simp [hstarter.baseType_ne_itemName, hstarter.baseType_ne_swordName, itemName_ne_swordName]

/-! ## The manifest -/

def baseDeclaration : TypeDeclaration where
  assembly := some "UnityEngine.CoreModule"
  base := none
  isAbstract := false
  isGeneric := false
  isPublic := true
  menu := none

def itemDeclaration (starter : Starter) (span : Span) : TypeDeclaration where
  assembly := some "Assembly-CSharp"
  base := some ⟨starter.baseType, span⟩
  isAbstract := true
  isGeneric := false
  isPublic := true
  menu := none

def swordTag : MenuTag :=
  ⟨⟨"Items/", ""⟩, none⟩

def swordDeclaration (span : Span) : TypeDeclaration where
  assembly := some "Assembly-CSharp"
  base := some ⟨itemName, span⟩
  isAbstract := false
  isGeneric := false
  isPublic := true
  menu := some swordTag

def settings (starter : Starter) : GeneratorSettings where
  output := ⟨starter.output⟩
  order := starter.order
  affixes := Affixes.none
  baseType := starter.baseType
  createDirectories := true

/-- The manifest of a starter, where the bases are named at the given places. -/
def manifest (starter : Starter) (itemBase swordBase : Span) : Manifest where
  generator := starter.settings
  types :=
    [ (starter.baseType, baseDeclaration),
      (itemName, starter.itemDeclaration itemBase),
      (swordName, swordDeclaration swordBase) ]

theorem read_settings (hstarter : starter.Admissible) (offset : Nat) :
    Decode.generator.read (starter.settingsDraft.sectionAt offset).table.toNode =
      .ok starter.settings := by
  have horder := Decode.integer_eq_ok hstarter.minInteger_le_order hstarter.order_le_maxInteger
  simp [Decode.generator, Decode.Record.read, Decode.Record.readEntries, Decode.Record.readEntry,
    Decode.Record.missing?, Decode.entries?, Decode.path, Decode.text, Section.table,
    Draft.sectionAt, Draft.entriesFrom, Table.toNode, Datum.node, bareKey, settingsDraft, settings,
    Affixes.none, horder, bind, Except.bind, pure, Except.pure]

theorem read_base (starter : Starter) (offset : Nat) :
    Decode.declaration.read (starter.baseDraft.sectionAt offset).table.toNode =
      .ok baseDeclaration := rfl

theorem exists_read_item (starter : Starter) (offset : Nat) :
    ∃ span, Decode.declaration.read (starter.itemDraft.sectionAt offset).table.toNode =
      .ok (starter.itemDeclaration span) := ⟨_, rfl⟩

theorem exists_read_sword (offset : Nat) :
    ∃ span, Decode.declaration.read (swordDraft.sectionAt offset).table.toNode =
      .ok (swordDeclaration span) := ⟨_, rfl⟩

theorem exists_ofDocument (hstarter : starter.Admissible) (baseAt itemAt swordAt : Nat) :
    ∃ itemBase swordBase, Manifest.ofDocument (starter.document baseAt itemAt swordAt) =
      .ok (starter.manifest itemBase swordBase) := by
  obtain ⟨itemBase, hitem⟩ := exists_read_item starter itemAt
  obtain ⟨swordBase, hsword⟩ := exists_read_sword swordAt
  have hsettings := read_settings hstarter 0
  have hbase := read_base starter baseAt
  have hgenerator : (starter.settingsDraft.sectionAt 0).path.last.text = "generator" := rfl
  have hbaseName : (starter.baseDraft.sectionAt baseAt).path.last.text = starter.baseType := rfl
  have hitemName : (starter.itemDraft.sectionAt itemAt).path.last.text = itemName := rfl
  have hswordName : (swordDraft.sectionAt swordAt).path.last.text = swordName := rfl
  refine ⟨itemBase, swordBase, ?_⟩
  simp [Manifest.ofDocument, document, Table.append, Table.empty, Section.group, bareKey,
    Decode.manifest, Decode.types, Decode.entries?, Decode.Record.readEntries,
    Decode.Record.readEntry, Decode.Record.missing?, hgenerator, hsettings, hbaseName, hbase,
    hitemName, hitem, hswordName, hsword, manifest, bind, Except.bind, pure, Except.pure]

section Manifest

variable {itemBase swordBase : Span}

theorem nodup_names_manifest (hstarter : starter.Admissible) :
    ((starter.manifest itemBase swordBase).types.map Prod.fst).Nodup := by
  simp [manifest, hstarter.baseType_ne_itemName, hstarter.baseType_ne_swordName,
    itemName_ne_swordName]

theorem extends_manifest_iff {derived base : String} :
    (starter.manifest itemBase swordBase).Extends derived base ↔
      (derived = itemName ∧ base = starter.baseType) ∨
        (derived = swordName ∧ base = itemName) := by
  constructor
  · rintro ⟨declaration, reference, hmem, href, rfl⟩
    simp only [manifest, List.mem_cons, Prod.mk.injEq, List.not_mem_nil, or_false] at hmem
    rcases hmem with ⟨rfl, rfl⟩ | ⟨rfl, rfl⟩ | ⟨rfl, rfl⟩
    · contradiction
    · obtain rfl := Option.some.inj href
      exact Or.inl ⟨rfl, rfl⟩
    · obtain rfl := Option.some.inj href
      exact Or.inr ⟨rfl, rfl⟩
  · rintro (⟨rfl, rfl⟩ | ⟨rfl, rfl⟩)
    · exact ⟨_, _, .tail _ (.head _), rfl, rfl⟩
    · exact ⟨_, _, .tail _ (.tail _ (.head _)), rfl, rfl⟩

theorem acyclic_manifest (hstarter : starter.Admissible) :
    (starter.manifest itemBase swordBase).Acyclic := by
  -- the rank of a type is the number of its bases
  apply Manifest.acyclic_of_rank
    fun name => if name = swordName then 2 else if name = itemName then 1 else 0
  intro derived base hextends
  rcases extends_manifest_iff.mp hextends with ⟨rfl, rfl⟩ | ⟨rfl, rfl⟩
  · simp [hstarter.baseType_ne_itemName, hstarter.baseType_ne_swordName, itemName_ne_swordName]
  · simp [itemName_ne_swordName]

theorem wellFormed_manifest (hstarter : starter.Admissible) :
    (starter.manifest itemBase swordBase).WellFormed where
  output_ne_empty := hstarter.output_ne_empty
  baseType_isTypeName := hstarter.baseType_isTypeName
  names_areTypeNames name declaration hmem := by
    simp only [manifest, List.mem_cons, Prod.mk.injEq, List.not_mem_nil, or_false] at hmem
    rcases hmem with ⟨rfl, -⟩ | ⟨rfl, -⟩ | ⟨rfl, -⟩
    · exact hstarter.baseType_isTypeName
    · decide +kernel
    · decide +kernel
  bases_areTypeNames name declaration reference hmem href := by
    have hextends : (starter.manifest itemBase swordBase).Extends name reference.name :=
      ⟨declaration, reference, hmem, href, rfl⟩
    rcases extends_manifest_iff.mp hextends with ⟨-, hname⟩ | ⟨-, hname⟩ <;> rw [hname]
    · exact hstarter.baseType_isTypeName
    · decide +kernel
  acyclic := acyclic_manifest hstarter

theorem ofSource_text_eq_ok (hstarter : starter.Admissible) (file : String) :
    ∃ itemBase swordBase,
      Manifest.ofSource starter.text file = .ok (starter.manifest itemBase swordBase) := by
  obtain ⟨baseAt, itemAt, swordAt, hdocument⟩ := exists_ofSource? hstarter
  obtain ⟨itemBase, swordBase, hmanifest⟩ := exists_ofDocument hstarter baseAt itemAt swordAt
  have hvalidate : (starter.manifest itemBase swordBase).validate starter.text = .ok () :=
    (Manifest.validate_eq_ok_iff starter.text (nodup_names_manifest hstarter)).mpr
      (wellFormed_manifest hstarter)
  refine ⟨itemBase, swordBase, ?_⟩
  rw [Manifest.ofSource_eq_validate file hdocument hmanifest, hvalidate]
  rfl

/-! ## The plan -/

/-- The one candidate. -/
def sword (starter : Starter) : Candidate where
  type :=
    { fullName := swordName
      assembly := some "Assembly-CSharp"
      isAbstract := false
      isGenericDefinition := false
      isPublic := true
      ancestors := [itemName, starter.baseType] }
  tag := swordTag

theorem ancestors_manifest (hstarter : starter.Admissible) :
    (starter.manifest itemBase swordBase).ancestors swordName = [itemName, starter.baseType] := by
  have hnodup : ((starter.manifest itemBase swordBase).types.map Prod.fst).Nodup :=
    nodup_names_manifest hstarter
  apply (Manifest.lineage_ancestors hnodup (acyclic_manifest hstarter) swordName).unique hnodup
  apply Manifest.Lineage.step (extends_manifest_iff.mpr (Or.inr ⟨rfl, rfl⟩))
  apply Manifest.Lineage.step (extends_manifest_iff.mpr (Or.inl ⟨rfl, rfl⟩))
  apply Manifest.Lineage.root
  intro base hextends
  rcases extends_manifest_iff.mp hextends with ⟨hname, -⟩ | ⟨hname, -⟩
  · exact hstarter.baseType_ne_itemName hname
  · exact hstarter.baseType_ne_swordName hname

theorem candidates_manifest (hstarter : starter.Admissible) :
    (starter.manifest itemBase swordBase).candidates = [starter.sword] := by
  have htagged : (starter.manifest itemBase swordBase).tagged = [(swordName, swordTag)] := rfl
  have hdeclaration : (starter.manifest itemBase swordBase).declaration? swordName =
      some (swordDeclaration swordBase) := by
    rw [Manifest.declaration?_eq_some_iff (nodup_names_manifest hstarter)]
    exact .tail _ (.tail _ (.head _))
  simp [Manifest.candidates, htagged, Manifest.typeInfo?, hdeclaration,
    ancestors_manifest hstarter, swordDeclaration, sword]

theorem make_sword (starter : Starter) (output : Path) :
    Plan.make { Config.ofSettings starter.settings with output } [starter.sword] =
      ⟨[⟨starter.sword, "Items/Sword", 0⟩], [], [], []⟩ := by
  have hrejection : starter.sword.type.rejection? starter.baseType = none := by
    simp [TypeInfo.rejection?, sword, TypeInfo.derivesFrom]
  have hsimple : simpleName swordName = "Sword" := by decide +kernel
  have hchoice : Naming.choice? Affixes.none Naming.Taken.none starter.sword =
      some ("Sword", "Items/Sword") := by
    simp [Naming.choice?, Naming.forms, TypeInfo.simpleName, sword, swordTag, hsimple,
      Naming.Taken.none, Naming.compose, Affixes.none]
  simp [Plan.make, Plan.rejections, Config.ofSettings, settings, Candidate.isEligible, hrejection,
    Naming.resolveAll, Naming.resolveFrom, Naming.resolve?, hchoice]
  rfl

end Manifest

/-- The text of a starter is accepted, as a manifest of what the starter was told and of three
types in a row, and the one entry that it plans is that of the sword. -/
theorem text_reads_back (hstarter : starter.Admissible) (file : String) :
    ∃ itemBase swordBase,
      Manifest.ofSource starter.text file = .ok (starter.manifest itemBase swordBase) ∧
      ∀ output,
        Plan.make
            { Config.ofSettings (starter.manifest itemBase swordBase).generator with output }
            (starter.manifest itemBase swordBase).candidates =
          ⟨[⟨starter.sword, "Items/Sword", 0⟩], [], [], []⟩ := by
  obtain ⟨itemBase, swordBase, hmanifest⟩ := ofSource_text_eq_ok hstarter file
  refine ⟨itemBase, swordBase, hmanifest, fun output => ?_⟩
  rw [candidates_manifest hstarter]
  exact make_sword starter output

/-- A starter whose output has all that makes quotation hard: long runs of both quotes, a
backslash, line ends, a tab and other control characters. -/
def odd : Starter :=
  ⟨"a\"\"\"\"b\r\n'''\\\x00\x7f\t\"\"", -9223372036854775808, "Gäme.Outer\x602+Inner"⟩

theorem admissible_odd : odd.Admissible where
  output_ne_empty := by decide
  minInteger_le_order := by decide
  order_le_maxInteger := by decide
  baseType_isTypeName := by decide +kernel
  baseType_ne_itemName := by decide
  baseType_ne_swordName := by decide

/-- The starter of a new project and the odd one. -/
theorem text_reads_back_standard_odd :
    (standard.Admissible ∧ ∃ itemBase swordBase,
      Manifest.ofSource standard.text Manifest.fileName =
          .ok (standard.manifest itemBase swordBase) ∧
        ∀ output,
          Plan.make
              { Config.ofSettings (standard.manifest itemBase swordBase).generator with output }
              (standard.manifest itemBase swordBase).candidates =
            ⟨[⟨standard.sword, "Items/Sword", 0⟩], [], [], []⟩) ∧
      odd.Admissible ∧ ∃ itemBase swordBase,
        Manifest.ofSource odd.text Manifest.fileName = .ok (odd.manifest itemBase swordBase) ∧
          ∀ output,
            Plan.make { Config.ofSettings (odd.manifest itemBase swordBase).generator with output }
                (odd.manifest itemBase swordBase).candidates =
              ⟨[⟨odd.sword, "Items/Sword", 0⟩], [], [], []⟩ :=
  ⟨⟨admissible_standard, text_reads_back admissible_standard Manifest.fileName⟩,
    admissible_odd, text_reads_back admissible_odd Manifest.fileName⟩

end Starter

end AssetMenu
