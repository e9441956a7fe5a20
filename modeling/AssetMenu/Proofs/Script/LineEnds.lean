import AssetMenu.Proofs.Plan.Accounting
import AssetMenu.Proofs.Script.ReadBack
import AssetMenu.Report.Generate

/-!
# Line ends in the editor script

Five characters end a line of program text.  What the script says of its own accord is
plain, so the line ends in it that do not close its lines come from the texts that are
free: what is put around the names of entries, and the names of assemblies.  Line feeds
and carriage returns are taken out of these on their way into a menu path or a comment,
and the three other line ends are not.
-/

namespace AssetMenu

namespace Text

/-- The characters that end a line of program text. -/
def lineEnds : List Char :=
  ['\n', '\r', '\x85', '\u2028', '\u2029']

/-- Is `c` a tab or a printable character of ASCII? -/
def isPlain (c : Char) : Bool :=
  c == '\t' || (32 ≤ c.toNat && c.toNat < 127)

variable {c : Char} {left text right : String}

theorem not_isPlain_of_mem_lineEnds (hc : c ∈ lineEnds) : isPlain c = false := by
  have hnone : lineEnds.all (!isPlain ·) = true := by decide
  simpa using List.all_eq_true.mp hnone c hc

theorem isPlain_of_isDigit (hdigit : c.isDigit = true) : isPlain c = true := by
  obtain ⟨hlow, hhigh⟩ := Char.isDigit_iff_toNat.mp hdigit
  have hlow' : 32 ≤ c.toNat := Nat.le_trans (by decide) hlow
  have hhigh' : c.toNat < 127 := Nat.lt_of_le_of_lt hhigh (by decide)
  simp [isPlain, hlow', hhigh']

theorem not_mem_of_isPlain (hc : isPlain c = false) (htext : text.toList.all isPlain = true) :
    c ∉ text.toList := by
  intro hmem
  have hplain := List.all_eq_true.mp htext c hmem
  exact Bool.false_ne_true (hc.symm.trans hplain)

/-- A literal can be checked without decoding it. -/
theorem all_isPlain_of_eq {chars : List Char} (htext : text = String.ofList chars)
    (hchars : chars.all isPlain = true) : text.toList.all isPlain = true := by
  rw [htext, String.toList_ofList]
  exact hchars

theorem mem_append_of_plain_left (hc : isPlain c = false) (hleft : left.toList.all isPlain = true) :
    c ∈ (left ++ text).toList ↔ c ∈ text.toList := by
  rw [String.toList_append, List.mem_append, or_iff_right (not_mem_of_isPlain hc hleft)]

theorem mem_append_of_plain_right (hc : isPlain c = false)
    (hright : right.toList.all isPlain = true) :
    c ∈ (text ++ right).toList ↔ c ∈ text.toList := by
  rw [String.toList_append, List.mem_append, or_iff_left (not_mem_of_isPlain hc hright)]

theorem isPlain_repr (value : Int) : value.repr.toList.all isPlain = true := by
  have hdigits (n : Nat) : (Nat.toDigits 10 n).all isPlain = true := by
    rw [List.all_eq_true]
    intro c hc
    exact isPlain_of_isDigit (Nat.isDigit_of_mem_toDigits (by decide) (by decide) hc)
  rw [Int.repr_eq_if]
  split
  · rw [Nat.toList_repr, hdigits]
  · rw [String.toList_append, List.all_append, Nat.toList_repr, hdigits]
    rfl

end Text

open Text

theorem lineEnd_not_mem_typeName {c : Char} {name : String} (hc : c ∈ lineEnds)
    (hname : isTypeName name = true) : c ∉ name.toList := by
  have hnone : lineEnds.all (fun c => !(TypeName.isSeparator c || c == TypeName.arityMark ||
      TypeName.isIdentifierPart c)) = true := by decide +kernel
  have hforeign := List.all_eq_true.mp hnone c hc
  simp only [Bool.not_or, Bool.and_eq_true, Bool.not_eq_true', beq_eq_false_iff_ne] at hforeign
  obtain ⟨⟨hseparator, hmark⟩, hpart⟩ := hforeign
  intro hmem
  rcases TypeName.mem_of_isQualified hname hmem with hcase | hcase | hcase
  · exact Bool.false_ne_true (hseparator.symm.trans hcase)
  · exact hmark hcase
  · exact Bool.false_ne_true (hpart.symm.trans hcase)

namespace Code

/-- The lines of a program text. -/
def programLines (text : String) : List String :=
  (fields lineEnds.contains text.toList).map String.ofList

/-- They are those that line feeds close if there are no other line ends. -/
theorem programLines_eq_iff {text : String} :
    programLines text = splitLines text ↔ ∀ c ∈ lineEnds, c ∈ text.toList → c = '\n' := by
  have hfiner : ∀ c, (c == '\n') = true → lineEnds.contains c = true := by
    intro c hc
    simp [lineEnds, beq_iff_eq.mp hc]
  rw [programLines, splitLines, List.map_inj_right fun _ _ => String.ofList_inj.mp,
    fields_eq_iff hfiner]
  simp only [List.contains_iff_mem, beq_iff_eq]
  exact ⟨fun h c hc hmem => h c hmem hc, fun h c hmem hc => h c hc hmem⟩

end Code

namespace Template

open Code

variable {c : Char}

/-! ## What is taken out of free texts -/

/-- An escape is plain, and stands for one of three characters if not for a plain one. -/
theorem escapeChar_plain_or_self (d : Char) :
    ((escapeChar d).all isPlain = true ∧
        (isPlain d = true ∨ d = '\n' ∨ d = '\r' ∨ d = '\x00')) ∨
      (escapeChar d = [d] ∧ d ≠ '\n' ∧ d ≠ '\r' ∧ d ≠ '\x00') := by
  unfold escapeChar
  split_ifs with hbackslash hquote hnewline hreturn htab hnull
  case neg => exact Or.inr ⟨rfl, hnewline, hreturn, hnull⟩
  all_goals subst d
  all_goals exact Or.inl ⟨by decide, by decide⟩

theorem mem_escapeChar_iff (hc : isPlain c = false) (d : Char) :
    c ∈ escapeChar d ↔ d = c ∧ c ≠ '\n' ∧ c ≠ '\r' ∧ c ≠ '\x00' := by
  rcases escapeChar_plain_or_self d with ⟨hplain, hd⟩ | ⟨hself, hd⟩
  · constructor
    · intro hmem
      exact absurd (hc.symm.trans (List.all_eq_true.mp hplain c hmem)) Bool.false_ne_true
    · rintro ⟨rfl, hnewline, hreturn, hnull⟩
      simp [hc, hnewline, hreturn, hnull] at hd
  · rw [hself, List.mem_singleton, eq_comm, iff_self_and]
    rintro rfl
    exact hd

/-- Of what is not plain, a menu path keeps all but three characters. -/
theorem mem_escape_iff (hc : isPlain c = false) (text : String) :
    c ∈ (escape text).toList ↔ c ∈ text.toList ∧ c ≠ '\n' ∧ c ≠ '\r' ∧ c ≠ '\x00' := by
  rw [escape, String.toList_ofList, List.mem_flatMap]
  constructor
  · rintro ⟨d, hmem, hd⟩
    obtain ⟨rfl, hkept⟩ := (mem_escapeChar_iff hc d).mp hd
    exact ⟨hmem, hkept⟩
  · rintro ⟨hmem, hkept⟩
    exact ⟨c, hmem, (mem_escapeChar_iff hc c).mpr ⟨rfl, hkept⟩⟩

/-- A comment keeps all but two. -/
theorem mem_singleLine_iff (hc : isPlain c = false) (text : String) :
    c ∈ (singleLine text).toList ↔ c ∈ text.toList ∧ c ≠ '\n' ∧ c ≠ '\r' := by
  have hspace : c ≠ ' ' := by
    rintro rfl
    contradiction
  rw [singleLine, String.toList_ofList, List.mem_map]
  constructor
  · rintro ⟨d, hmem, heq⟩
    split at heq
    next => exact absurd heq.symm hspace
    next hkept =>
      subst heq
      exact ⟨hmem, fun hnewline => hkept (Or.inr hnewline), fun hreturn => hkept (Or.inl hreturn)⟩
  · rintro ⟨hmem, hnewline, hreturn⟩
    exact ⟨c, hmem, if_neg (by simp [hnewline, hreturn])⟩

namespace UnityScript

/-! ## Where the script says something of its own -/

theorem isPlain_opening : opening.all (·.toList.all isPlain) = true := by
  simp only [opening, List.all_cons, List.all_nil, Bool.and_true, Bool.and_eq_true]
  and_intros
  all_goals exact all_isPlain_of_eq rfl rfl

theorem isPlain_closing : closing.all (·.toList.all isPlain) = true := by
  simp only [closing, List.all_cons, List.all_nil, Bool.and_true, Bool.and_eq_true]
  and_intros
  all_goals exact all_isPlain_of_eq rfl rfl

theorem mem_attributeLine_iff (hc : isPlain c = false) (entry : MenuEntry) :
    c ∈ (attributeLine entry).toList ↔ c ∈ (escape entry.menuPath).toList := by
  have hpriority : (toString entry.priority).toList.all isPlain = true := isPlain_repr _
  rw [attributeLine, mem_append_of_plain_right hc (by decide),
    mem_append_of_plain_right hc hpriority, mem_append_of_plain_right hc (by decide),
    mem_append_of_plain_left hc (by decide)]

theorem mem_instanceLine_iff (hc : isPlain c = false) (entry : MenuEntry) :
    c ∈ (instanceLine entry).toList ↔ c ∈ entry.typeName.toList := by
  rw [instanceLine, mem_append_of_plain_right hc (by decide),
    mem_append_of_plain_left hc (by decide)]

theorem isPlain_methodLine (ordinal : Nat) :
    ("private static void _Generate" ++ toString ordinal ++ "()").toList.all isPlain = true := by
  have hordinal : (toString ordinal).toList.all isPlain = true := isPlain_repr (ordinal : Int)
  rw [String.toList_append, String.toList_append, List.all_append, List.all_append, hordinal]
  decide

theorem mem_written_iff (hc : isPlain c = false) (level : Nat) (content : String) :
    c ∈ (Line.written .tab (.text level content)).toList ↔ c ∈ content.toList := by
  have htabs : (String.join (List.replicate level Indent.tab.unit)).toList.all isPlain = true := by
    rw [String.toList_join, List.all_flatMap, List.all_replicate]
    split
    · rfl
    · decide
  rw [Line.written, mem_append_of_plain_left hc htabs]

/-- What is not plain in a block comes from the menu path and the names of the type. -/
theorem exists_mem_entryBlock_iff (hc : isPlain c = false) (config : Config)
    (resolved : Resolved) :
    (∃ line ∈ entryBlock config resolved, c ∈ line.toList) ↔
      c ∈ (singleLine resolved.candidate.type.qualifiedName).toList ∨
        c ∈ (escape ("Assets/Create/" ++ resolved.identifier)).toList ∨
        c ∈ resolved.candidate.type.sourceName.toList := by
  have hcomment (name : String) :
      c ∈ ("//" ++ " " ++ ("Menu item for '" ++ name ++ "'")).toList ↔ c ∈ name.toList := by
    rw [mem_append_of_plain_left hc (by decide),
      mem_append_of_plain_right hc (by decide),
      mem_append_of_plain_left hc (by decide)]
  have hmethod := not_mem_of_isPlain hc
    (isPlain_methodLine (unityScript.menuEntry config resolved).ordinal)
  have hopened : c ∉ "\x7b".toList := not_mem_of_isPlain hc (by decide)
  have hcall : c ∉ "_CreateAsset(item);".toList := not_mem_of_isPlain hc (by decide)
  have hclosed : c ∉ "\x7d".toList := not_mem_of_isPlain hc (by decide)
  have hblank : c ∉ (Line.written .tab .blank).toList := not_mem_of_isPlain hc (by decide)
  simp only [entryBlock, run_entryFragment, List.map_cons, List.map_nil, List.exists_mem_cons_iff,
    mem_written_iff hc, mem_attributeLine_iff hc, mem_instanceLine_iff hc, hcomment, hmethod,
    hopened, hcall, hclosed, hblank, List.not_mem_nil, false_and, exists_false, false_or, or_false]
  rfl

/-- What is not plain in the script is in the block of one of its entries. -/
theorem mem_emit_iff (hc : isPlain c = false) (hnewline : c ≠ '\n') (config : Config)
    (entries : List Resolved) :
    c ∈ (unityScript.emit config entries).toList ↔
      ∃ resolved ∈ entries, ∃ line ∈ entryBlock config resolved, c ∈ line.toList := by
  have hopening : ¬ ∃ line ∈ opening, c ∈ line.toList := by
    rintro ⟨line, hline, hmem⟩
    exact not_mem_of_isPlain hc (List.all_eq_true.mp isPlain_opening line hline) hmem
  have hclosing : ¬ ∃ line ∈ closing, c ∈ line.toList := by
    rintro ⟨line, hline, hmem⟩
    exact not_mem_of_isPlain hc (List.all_eq_true.mp isPlain_closing line hline) hmem
  have hlines : c ∈ (unityScript.emit config entries).toList ↔
      ∃ line ∈ (run 0 (unityScript.fragment config entries)).1.map (Line.written .tab),
        c ∈ line.toList := by
    rw [Template.emit, render]
    change c ∈ (renderLines .tab _).toList ↔ _
    rw [toList_renderLines]
    simp [hnewline]
  rw [hlines, written_fragment]
  simp only [List.mem_append, or_and_right, exists_or, hopening, hclosing, false_or, or_false,
    List.mem_flatMap]
  constructor
  · rintro ⟨line, ⟨resolved, hresolved, hline⟩, hmem⟩
    exact ⟨resolved, (inOrder_perm entries).subset hresolved, line, hline, hmem⟩
  · rintro ⟨resolved, hresolved, line, hline, hmem⟩
    exact ⟨line, ⟨resolved, (inOrder_perm entries).symm.subset hresolved, hline⟩, hmem⟩

/-! ## The texts that are free -/

/-- The texts in the block of an entry that may be any texts at all. -/
def freeTexts (config : Config) (resolved : Resolved) : List String :=
  [ config.affixes.before, resolved.candidate.tag.affixes.before,
    resolved.candidate.tag.affixes.after, config.affixes.after ] ++
    resolved.candidate.type.assembly.toList

theorem exists_mem_freeTexts_iff {config : Config} {resolved : Resolved} :
    (∃ text ∈ freeTexts config resolved, c ∈ text.toList) ↔
      (∃ assembly ∈ resolved.candidate.type.assembly, c ∈ assembly.toList) ∨
        c ∈ config.affixes.before.toList ∨ c ∈ resolved.candidate.tag.affixes.before.toList ∨
          c ∈ resolved.candidate.tag.affixes.after.toList ∨ c ∈ config.affixes.after.toList := by
  simp only [freeTexts, List.mem_append, or_and_right, exists_or, List.exists_mem_cons_iff,
    List.not_mem_nil, false_and, exists_false, or_false, Option.mem_toList]
  rw [or_comm]
  rfl

/-- An entry of an accepted type, with a name that is made of one of its forms. -/
structure Sound (config : Config) (resolved : Resolved) : Prop where
  typeName : isTypeName resolved.candidate.type.fullName = true
  identifier : ∃ base ∈ Naming.forms resolved.candidate,
    resolved.identifier = Naming.compose config.affixes resolved.candidate base

variable {config : Config} {resolved : Resolved}

theorem Sound.mem_identifier_iff (hsound : Sound config resolved) (hc : c ∈ lineEnds) :
    c ∈ resolved.identifier.toList ↔
      c ∈ config.affixes.before.toList ∨ c ∈ resolved.candidate.tag.affixes.before.toList ∨
        c ∈ resolved.candidate.tag.affixes.after.toList ∨ c ∈ config.affixes.after.toList := by
  obtain ⟨base, hbase, hidentifier⟩ := hsound.identifier
  have hname := lineEnd_not_mem_typeName hc hsound.typeName
  have hfree : c ∉ base.toList := by
    simp only [Naming.forms, List.mem_cons, List.not_mem_nil, or_false] at hbase
    rcases hbase with rfl | rfl
    · exact fun hmem => hname (mem_of_mem_simpleName hmem)
    · exact hname
  simp only [hidentifier, Naming.compose, String.toList_append, List.mem_append, hfree, or_false,
    or_assoc]

theorem Sound.mem_qualifiedName_iff (hsound : Sound config resolved) (hc : c ∈ lineEnds) :
    c ∈ resolved.candidate.type.qualifiedName.toList ↔
      ∃ assembly ∈ resolved.candidate.type.assembly, c ∈ assembly.toList := by
  have hname := lineEnd_not_mem_typeName hc hsound.typeName
  have hcomma : c ∉ ", ".toList :=
    not_mem_of_isPlain (not_isPlain_of_mem_lineEnds hc) (by decide)
  rw [TypeInfo.qualifiedName]
  cases resolved.candidate.type.assembly with
  | none => simp [hname]
  | some assembly =>
      simp only [String.toList_append, List.mem_append, hname, hcomma, false_or, Option.mem_def,
        Option.some.injEq, exists_eq_left']

/-- A block holds the line ends of the free texts but for line feeds and carriage returns. -/
theorem Sound.exists_mem_entryBlock_iff (hsound : Sound config resolved) (hc : c ∈ lineEnds)
    (hnewline : c ≠ '\n') :
    (∃ line ∈ entryBlock config resolved, c ∈ line.toList) ↔
      c ≠ '\r' ∧ ∃ text ∈ freeTexts config resolved, c ∈ text.toList := by
  have hforeign := not_isPlain_of_mem_lineEnds hc
  have hkept : c ≠ '.' ∧ c ≠ '\x00' := by
    constructor
    all_goals
      rintro rfl
      simp [lineEnds] at hc
  have hsource : c ∉ resolved.candidate.type.sourceName.toList := fun hmem =>
    lineEnd_not_mem_typeName hc hsound.typeName (mem_of_mem_sourceName hkept.1 hmem)
  rw [UnityScript.exists_mem_entryBlock_iff hforeign, mem_singleLine_iff hforeign,
    mem_escape_iff hforeign, mem_append_of_plain_left hforeign (by decide),
    hsound.mem_identifier_iff hc, hsound.mem_qualifiedName_iff hc, exists_mem_freeTexts_iff]
  simp only [hsource, hnewline, hkept.2, ne_eq, not_false_eq_true, true_and, and_true, or_false]
  rw [← or_and_right, and_comm]

variable {entries : List Resolved}

/-- A line end of the script that closes none of its lines is no carriage return, and comes from
a free text. -/
theorem lineEnd_mem_emit_iff (hsound : ∀ resolved ∈ entries, Sound config resolved)
    (hc : c ∈ lineEnds) (hnewline : c ≠ '\n') :
    c ∈ (unityScript.emit config entries).toList ↔
      c ≠ '\r' ∧ ∃ resolved ∈ entries, ∃ text ∈ freeTexts config resolved, c ∈ text.toList := by
  rw [mem_emit_iff (not_isPlain_of_mem_lineEnds hc) hnewline]
  constructor
  · rintro ⟨resolved, hresolved, hblock⟩
    obtain ⟨hreturn, htext⟩ :=
      ((hsound resolved hresolved).exists_mem_entryBlock_iff hc hnewline).mp hblock
    exact ⟨hreturn, resolved, hresolved, htext⟩
  · rintro ⟨hreturn, resolved, hresolved, htext⟩
    exact ⟨resolved, hresolved,
      ((hsound resolved hresolved).exists_mem_entryBlock_iff hc hnewline).mpr ⟨hreturn, htext⟩⟩

theorem programLines_emit_iff (hsound : ∀ resolved ∈ entries, Sound config resolved) :
    programLines (unityScript.emit config entries) = splitLines (unityScript.emit config entries) ↔
      ∀ resolved ∈ entries, ∀ text ∈ freeTexts config resolved,
        ∀ c ∈ text.toList, c ∈ lineEnds → c = '\n' ∨ c = '\r' := by
  rw [programLines_eq_iff]
  constructor
  · intro hclosed resolved hresolved text htext c hmem hc
    by_contra hother
    obtain ⟨hnewline, hreturn⟩ := not_or.mp hother
    have hscript := (lineEnd_mem_emit_iff hsound hc hnewline).mpr
      ⟨hreturn, resolved, hresolved, text, htext, hmem⟩
    exact hnewline (hclosed c hc hscript)
  · intro hfree c hc hscript
    by_contra hnewline
    obtain ⟨hreturn, resolved, hresolved, text, htext, hmem⟩ :=
      (lineEnd_mem_emit_iff hsound hc hnewline).mp hscript
    exact (hfree resolved hresolved text htext c hmem hc).elim hnewline hreturn

theorem sound_of_mem_entries {source name : String} {manifest : Manifest}
    (hread : Manifest.ofSource source name = .ok manifest)
    (hresolved : resolved ∈ (Plan.make config manifest.candidates).entries) :
    Sound config resolved := by
  have hnames := Manifest.nodup_names_of_ofSource hread
  have hwell := Manifest.wellFormed_of_ofSource hread
  have hcandidate : resolved.candidate ∈ manifest.candidates :=
    (Plan.entries_sublist config manifest.candidates).subset (List.mem_map_of_mem hresolved)
  obtain ⟨typeName, declaration, tag, hmem, -, heq⟩ :=
    (Manifest.mem_candidates_iff hnames).mp hcandidate
  constructor
  case typeName =>
    rw [← heq]
    exact hwell.names_areTypeNames typeName declaration hmem
  case identifier => exact Naming.exists_form_of_mem_resolveFrom hresolved

/-- The blocks of the script can be read back one by one, for the entries of a manifest. -/
theorem readsBack_emit_make {source name : String} {manifest : Manifest}
    (hread : Manifest.ofSource source name = .ok manifest) (config : Config) :
    ReadsBack config (Plan.make config manifest.candidates).entries
      (unityScript.emit config (Plan.make config manifest.candidates).entries) := by
  have hnames : ∀ resolved ∈ (Plan.make config manifest.candidates).entries,
      '\n' ∉ resolved.candidate.type.fullName.toList := by
    intro resolved hresolved
    apply lineEnd_not_mem_typeName List.mem_cons_self
    exact (sound_of_mem_entries hread hresolved).typeName
  have hreads := readsBack_emit config hnames
  rwa [inOrder_entries] at hreads

/-- The lines that line feeds close in the script are its own and those of its blocks, whatever
the free texts are.  There is no carriage return in it, and the other line ends are those of the
free texts.  So the script has the same lines as a program text exactly if there is none of these
in the free texts. -/
theorem emit_lineEnds {source name : String} {file : ManifestFile}
    (hread : Manifest.ofSource source name = .ok file.manifest) (overrides : Overrides) :
    let generation := GenerateReport.generation file overrides
    let script := generation.emit generation.plan
    splitLines script =
        opening ++ ((inOrder generation.plan.entries).flatMap (entryBlock generation.config) ++
          (closing ++ [""])) ∧
      (∀ c ∈ lineEnds, c ≠ '\n' → (c ∈ script.toList ↔
        c ≠ '\r' ∧ ∃ resolved ∈ generation.plan.entries,
          ∃ text ∈ freeTexts generation.config resolved, c ∈ text.toList)) ∧
      (programLines script = splitLines script ↔
        ∀ resolved ∈ generation.plan.entries, ∀ text ∈ freeTexts generation.config resolved,
          ∀ c ∈ text.toList, c ∈ lineEnds → c = '\n' ∨ c = '\r') := by
  intro generation script
  have hsound : ∀ resolved ∈ generation.plan.entries, Sound generation.config resolved :=
    fun resolved hresolved => sound_of_mem_entries hread hresolved
  refine ⟨?lines, fun c hc hnewline => lineEnd_mem_emit_iff hsound hc hnewline,
    programLines_emit_iff hsound⟩
  apply splitLines_emit
  intro resolved hresolved
  exact lineEnd_not_mem_typeName List.mem_cons_self (hsound resolved hresolved).typeName

/-- A type in an assembly whose name has a line separator in it. -/
def separatedSource : String :=
  "[generator]\noutput = \"M.cs\"\n[types.\"Game.Sword\"]\nassembly = \"A\u2028B\"\n" ++
    "extends = \"UnityEngine.ScriptableObject\"\nmenu = \x7b\x7d\n"

/-- The file with `separatedSource`. -/
def separatedFile : ManifestFile :=
  let base : BaseReference := ⟨defaultBaseType, ⟨78, 108⟩⟩
  ⟨⟨Manifest.fileName⟩, separatedSource,
    ⟨⟨⟨"M.cs"⟩, 0, Affixes.none, defaultBaseType, true⟩,
      [("Game.Sword",
        ⟨some "A\u2028B", some base, false, false, true, some ⟨Affixes.none, none⟩⟩)]⟩⟩

theorem ofSource_separatedSource :
    Manifest.ofSource separatedSource Manifest.fileName = .ok separatedFile.manifest :=
  eq_ok_of_toOption (by decide +kernel)

/-- The run on `separatedFile`. -/
def separatedRun : Generation :=
  GenerateReport.generation separatedFile Overrides.none

theorem emit_separatedFile :
    Manifest.ofSource separatedSource Manifest.fileName = .ok separatedFile.manifest ∧
      let script := separatedRun.emit separatedRun.plan
      splitLines script =
          opening ++ ((inOrder separatedRun.plan.entries).flatMap
            (entryBlock separatedRun.config) ++ (closing ++ [""])) ∧
        (∀ c ∈ lineEnds, c ≠ '\n' → (c ∈ script.toList ↔
          c ≠ '\r' ∧ ∃ resolved ∈ separatedRun.plan.entries,
            ∃ text ∈ freeTexts separatedRun.config resolved, c ∈ text.toList)) ∧
        (programLines script = splitLines script ↔
          ∀ resolved ∈ separatedRun.plan.entries,
            ∀ text ∈ freeTexts separatedRun.config resolved,
              ∀ c ∈ text.toList, c ∈ lineEnds → c = '\n' ∨ c = '\r') :=
  ⟨ofSource_separatedSource, emit_lineEnds ofSource_separatedSource Overrides.none⟩

/-- The manifest is accepted, and the line separator ends the comment on its type. -/
theorem lineSeparator_mem_emit_separatedFile :
    Manifest.ofSource separatedSource Manifest.fileName = .ok separatedFile.manifest ∧
      '\u2028' ∈ lineEnds ∧
      '\u2028' ∈ (separatedRun.emit separatedRun.plan).toList := by
  have hlineEnd : '\u2028' ∈ lineEnds := by simp [lineEnds]
  have hsound : ∀ resolved ∈ separatedRun.plan.entries, Sound separatedRun.config resolved :=
    fun resolved hresolved => sound_of_mem_entries ofSource_separatedSource hresolved
  have hassembly : separatedRun.plan.entries.map (·.candidate.type.assembly) =
      [some "A\u2028B"] := by decide +kernel
  obtain ⟨resolved, hresolved, hname⟩ :=
    List.mem_map.mp (hassembly ▸ List.mem_singleton_self (some "A\u2028B"))
  refine ⟨ofSource_separatedSource, hlineEnd,
    (lineEnd_mem_emit_iff hsound hlineEnd (by decide)).mpr ⟨by decide, resolved, hresolved, ?_⟩⟩
  refine ⟨"A\u2028B", List.mem_append_right _ ?_, by decide⟩
  rw [hname]
  exact List.mem_singleton_self _

end UnityScript

end Template

end AssetMenu
