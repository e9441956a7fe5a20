import AssetMenu.Document.Statement
import AssetMenu.Proofs.Document.Quotation

/-!
# Keys are read back

A key of letters, digits, underscores and hyphens is written as it is, any other one in
quotes.  What follows a key ends it, and blanks, line ends and comments are passed over
wherever they may stand.
-/

namespace AssetMenu.Document

open Text

variable {c : Char} {rest : List Char} {name : String} {offset : Nat}

/-! ## Blanks and comments -/

namespace Cursor

theorem skipSpaces_space (rest : List Char) (offset : Nat) :
    skipSpaces ⟨' ' :: rest, offset⟩ = skipSpaces ⟨rest, offset + 1⟩ := by
  simp [skipSpaces, takeWhile, isSpace, Char.utf8Size, Nat.add_assoc]

theorem skipSpaces_of_not_isSpace (hc : isSpace c = false) (rest : List Char) (offset : Nat) :
    skipSpaces ⟨c :: rest, offset⟩ = ⟨c :: rest, offset⟩ := by
  simp [skipSpaces, takeWhile, hc]

/-- Characters that are passed over, or that begin what is passed over. -/
def isFiller (c : Char) : Bool :=
  isSpace c || c == '\n' || c == '\r' || c == '#'

theorem skipFiller_space (rest : List Char) (offset : Nat) :
    skipFiller ⟨' ' :: rest, offset⟩ = skipFiller ⟨rest, offset + 1⟩ := by
  simp [skipFiller, skipFillerFrom, isSpace]

theorem skipFiller_newline (rest : List Char) (offset : Nat) :
    skipFiller ⟨'\n' :: rest, offset⟩ = skipFiller ⟨rest, offset + 1⟩ := by
  simp [skipFiller, skipFillerFrom]

theorem skipFiller_of_not_isFiller (hc : isFiller c = false) (rest : List Char) (offset : Nat) :
    skipFiller ⟨c :: rest, offset⟩ = some ⟨c :: rest, offset⟩ := by
  simp only [isFiller, Bool.or_eq_false_iff, beq_eq_false_iff_ne, ne_eq] at hc
  obtain ⟨⟨⟨hspace, hnewline⟩, hreturn⟩, hmark⟩ := hc
  simp [skipFiller, skipFillerFrom, hspace, hreturn, hmark]

theorem skipFillerFrom_comment {text : List Char} (htext : ∀ c ∈ text, isPlain c = true)
    (rest : List Char) (offset : Nat) :
    skipFillerFrom true (text ++ '\n' :: rest) offset =
      skipFillerFrom false rest (offset + byteCount text + 1) := by
  induction text generalizing offset with
  | nil => simp [skipFillerFrom]
  | cons c text ih =>
      obtain ⟨hplain, hmore⟩ := List.forall_mem_cons.mp htext
      have hnewline : c ≠ '\n' := by
        rintro rfl
        contradiction
      have hreturn : c ≠ '\r' := by
        rintro rfl
        contradiction
      simp [skipFillerFrom, hplain, hreturn, ih hmore, Nat.add_assoc]

theorem skipFiller_comment {text : List Char} (htext : ∀ c ∈ text, isPlain c = true)
    (rest : List Char) (offset : Nat) :
    skipFiller ⟨'#' :: text ++ '\n' :: rest, offset⟩ =
      skipFiller ⟨rest, offset + byteCount ('#' :: text) + 1⟩ := by
  simp [skipFiller, skipFillerFrom, isSpace, skipFillerFrom_comment htext, Char.utf8Size,
    Nat.add_assoc]

theorem skipLineEnd_newline (rest : List Char) (offset : Nat) :
    skipLineEnd ⟨'\n' :: rest, offset⟩ = some ⟨rest, offset + 1⟩ := by
  rw [skipLineEnd, skipSpaces_of_not_isSpace rfl]
  rfl

end Cursor

/-! ## Keys -/

/-- May the key be written without quotes? -/
def isBareKey (name : String) : Bool :=
  !name.toList.isEmpty && name.toList.all isBareKeyChar

/-- May the key be written with quotes, on one line? -/
def isQuotedKey (name : String) : Bool :=
  Printer.formOf name.toList = .basic ∨ Printer.formOf name.toList = .literal

/-- Characters that cannot stand as they are between double quotes on one line. -/
def Printer.isSpecial (c : Char) : Bool :=
  isControl c || c == '\\' || c == '"' || c == '\n'

theorem Printer.toNat_lt_of_isSpecial (hc : isSpecial c = true) : c.toNat < 128 := by
  simp only [isSpecial, isControl, Bool.or_eq_true, Bool.and_eq_true, decide_eq_true_eq,
    beq_iff_eq] at hc
  rcases hc with ((hcontrol | rfl) | rfl) | rfl
  · omega
  · decide
  · decide
  · decide

theorem isQuotedKey_of_forall_not_isSpecial
    (hname : ∀ c ∈ name.toList, Printer.isSpecial c = false) : isQuotedKey name = true := by
  simp only [Printer.isSpecial, Bool.or_eq_false_iff, beq_eq_false_iff_ne] at hname
  have hcontrol : name.toList.any Printer.isControl = false :=
    List.any_eq_false.mpr fun c hc => by simp [hname c hc]
  have hbackslash : '\\' ∉ name.toList := fun hmem => (hname _ hmem).1.1.2 rfl
  have hquote : '"' ∉ name.toList := fun hmem => (hname _ hmem).1.2 rfl
  have hnewline : '\n' ∉ name.toList := fun hmem => (hname _ hmem).2 rfl
  have hform : Printer.formOf name.toList = .basic := by
    simp [Printer.formOf, hcontrol, hbackslash, hquote, hnewline]
  rw [isQuotedKey, hform]
  rfl

def bareKey (name : String) (offset : Nat) : Key :=
  ⟨name, ⟨offset, offset + byteCount name.toList⟩⟩

def quotedKey (name : String) (offset : Nat) : Key :=
  ⟨name, ⟨offset, offset + byteCount (printText name.toList)⟩⟩

theorem ne_of_isBareKeyChar (hc : isBareKeyChar c = true) (other : Char)
    (hother : isBareKeyChar other = false) : c ≠ other := by
  rintro rfl
  exact Bool.false_ne_true (hother.symm.trans hc)

theorem exists_toList_eq_cons (hname : isBareKey name = true) :
    ∃ first more, name.toList = first :: more ∧ isBareKeyChar first = true := by
  obtain ⟨hnonempty, hchars⟩ := Bool.and_eq_true_iff.mp hname
  cases htext : name.toList with
  | nil => simp [htext] at hnonempty
  | cons first more =>
      rw [htext, List.all_cons, Bool.and_eq_true] at hchars
      exact ⟨first, more, rfl, hchars.1⟩

theorem readKey_bare (hname : isBareKey name = true) (hc : isBareKeyChar c = false)
    (rest : List Char) (offset : Nat) :
    readKey ⟨name.toList ++ c :: rest, offset⟩ =
      some (bareKey name offset, ⟨c :: rest, offset + byteCount name.toList⟩) := by
  have hchars := List.all_eq_true.mp (Bool.and_eq_true_iff.mp hname).2
  have htake : (name.toList ++ c :: rest).takeWhile isBareKeyChar = name.toList := by
    rw [List.takeWhile_append_of_pos hchars, List.takeWhile_cons_of_neg (by simp [hc]),
      List.append_nil]
  have hdrop : (name.toList ++ c :: rest).dropWhile isBareKeyChar = c :: rest := by
    rw [List.dropWhile_append_of_pos hchars, List.dropWhile_cons_of_neg (by simp [hc])]
  obtain ⟨first, more, htext, hfirst⟩ := exists_toList_eq_cons hname
  unfold readKey
  split
  next heq =>
    rw [htext] at heq
    exact absurd (List.cons.inj heq).1 (ne_of_isBareKeyChar hfirst _ rfl)
  next heq =>
    rw [htext] at heq
    exact absurd (List.cons.inj heq).1 (ne_of_isBareKeyChar hfirst _ rfl)
  next =>
    have hnonempty : name.toList.isEmpty = false := by simp [htext]
    simp only [Cursor.takeWhile, htake, hdrop, hnonempty, String.ofList_toList]
    rfl

theorem readKey_quoted (hname : isQuotedKey name = true) (rest : List Char) (offset : Nat) :
    readKey ⟨printText name.toList ++ rest, offset⟩ =
      some (quotedKey name offset, ⟨rest, offset + byteCount (printText name.toList)⟩) := by
  have hread := readQuoted_printText (of_decide_eq_true hname) rest offset
  have hkey : readKey ⟨printText name.toList ++ rest, offset⟩ =
      (readQuoted ⟨printText name.toList ++ rest, offset⟩).map fun read =>
        (⟨String.ofList read.1, Cursor.spanTo ⟨printText name.toList ++ rest, offset⟩ read.2⟩,
          read.2) := by
    obtain ⟨quote, more, htext, rfl | rfl⟩ := exists_printText_eq_cons name.toList <;>
      rw [htext] <;> rfl
  rw [hkey, hread, Option.map_some]
  simp only [String.ofList_toList]
  rfl

theorem readKeyPathWithin_last (bound : Nat) {start next : Cursor} {key : Key}
    (hkey : readKey start = some (key, next)) (hend : next.skipSpaces.rest.head? ≠ some '.') :
    readKeyPathWithin (bound + 1) start = some (⟨[], key⟩, next.skipSpaces) := by
  simp only [readKeyPathWithin, hkey, Option.bind_eq_bind, Option.bind_some]
  split
  next heq => simp [heq] at hend
  next => rfl

theorem readKeyPathWithin_dotted {bound stop : Nat} {start next last : Cursor} {key : Key}
    {path : KeyPath} (hkey : readKey start = some (key, next))
    (hdot : next.skipSpaces = ⟨'.' :: rest, stop⟩)
    (hpath : readKeyPathWithin bound (Cursor.skipSpaces ⟨rest, stop + 1⟩) = some (path, last)) :
    readKeyPathWithin (bound + 1) start = some (⟨key :: path.through, path.last⟩, last) := by
  simp [readKeyPathWithin, hkey, hdot, hpath]

/-- A key of one part, as it stands before an equals sign. -/
theorem readKeyPath_bare (hname : isBareKey name = true) (rest : List Char) (offset : Nat) :
    readKeyPath ⟨name.toList ++ ' ' :: '=' :: rest, offset⟩ =
      some (⟨[], bareKey name offset⟩, ⟨'=' :: rest, offset + byteCount name.toList + 1⟩) := by
  have hkey := readKey_bare hname (c := ' ') rfl ('=' :: rest) offset
  have hspaces : Cursor.skipSpaces ⟨' ' :: '=' :: rest, offset + byteCount name.toList⟩ =
      ⟨'=' :: rest, offset + byteCount name.toList + 1⟩ := by
    rw [Cursor.skipSpaces_space, Cursor.skipSpaces_of_not_isSpace rfl]
  rw [readKeyPath, maxKeyParts, readKeyPathWithin_last _ hkey (by simp [hspaces]), hspaces]

theorem skipSpaces_bare (hname : isBareKey name = true) (rest : List Char) (offset : Nat) :
    Cursor.skipSpaces ⟨name.toList ++ rest, offset⟩ = ⟨name.toList ++ rest, offset⟩ := by
  obtain ⟨first, more, htext, hfirst⟩ := exists_toList_eq_cons hname
  have hspace : Cursor.isSpace first = false := by
    simp [Cursor.isSpace, ne_of_isBareKeyChar hfirst ' ' rfl,
      ne_of_isBareKeyChar hfirst '\t' rfl]
  rw [htext]
  exact Cursor.skipSpaces_of_not_isSpace hspace _ _

/-- A key of one part, as it stands in a header. -/
theorem readHeaderPath_bare (hname : isBareKey name = true) (rest : List Char) (offset : Nat) :
    Statement.readHeaderPath ⟨name.toList ++ ']' :: rest, offset⟩ =
      some (⟨[], bareKey name offset⟩, ⟨rest, offset + byteCount name.toList + 1⟩) := by
  have hkey := readKey_bare hname (c := ']') rfl rest offset
  have hspaces := Cursor.skipSpaces_of_not_isSpace (c := ']') rfl rest
    (offset + byteCount name.toList)
  simp [Statement.readHeaderPath, skipSpaces_bare hname, readKeyPath, maxKeyParts,
    readKeyPathWithin_last _ hkey (by simp [hspaces]), hspaces, Cursor.expect, Char.utf8Size]

theorem skipSpaces_printText (cs rest : List Char) (offset : Nat) :
    Cursor.skipSpaces ⟨printText cs ++ rest, offset⟩ = ⟨printText cs ++ rest, offset⟩ := by
  obtain ⟨quote, more, htext, rfl | rfl⟩ := exists_printText_eq_cons cs <;>
    rw [htext] <;> exact Cursor.skipSpaces_of_not_isSpace rfl _ _

/-- A key of two parts, as it stands in a header. -/
theorem readHeaderPath_dotted {outer : String} (houter : isBareKey outer = true)
    (hname : isQuotedKey name = true) (rest : List Char) (offset : Nat) :
    Statement.readHeaderPath
        ⟨outer.toList ++ '.' :: (printText name.toList ++ ']' :: rest), offset⟩ =
      some (⟨[bareKey outer offset], quotedKey name (offset + byteCount outer.toList + 1)⟩,
        ⟨rest, offset + byteCount outer.toList + 1 + byteCount (printText name.toList) + 1⟩) := by
  have hkey := readKey_bare houter (c := '.') rfl (printText name.toList ++ ']' :: rest) offset
  have hdot := Cursor.skipSpaces_of_not_isSpace (c := '.') rfl
    (printText name.toList ++ ']' :: rest) (offset + byteCount outer.toList)
  have hinner := readKey_quoted hname (']' :: rest) (offset + byteCount outer.toList + 1)
  rw [← skipSpaces_printText] at hinner
  have hspaces := Cursor.skipSpaces_of_not_isSpace (c := ']') rfl rest
    (offset + byteCount outer.toList + 1 + byteCount (printText name.toList))
  have hlast := readKeyPathWithin_last 78 hinner (by simp [hspaces])
  simp [Statement.readHeaderPath, skipSpaces_bare houter, readKeyPath, maxKeyParts,
    readKeyPathWithin_dotted hkey hdot hlast, hspaces, Cursor.expect, Char.utf8Size]

theorem isFiller_of_isBareKeyChar (hc : isBareKeyChar c = true) : Cursor.isFiller c = false := by
  have hne : ∀ other, isBareKeyChar other = false → (c == other) = false := fun other hother =>
    beq_eq_false_iff_ne.mpr (ne_of_isBareKeyChar hc other hother)
  simp [Cursor.isFiller, Cursor.isSpace, hne ' ' rfl, hne '\t' rfl, hne '\n' rfl, hne '\r' rfl,
    hne '#' rfl]

theorem skipFiller_bare (hname : isBareKey name = true) (rest : List Char) (offset : Nat) :
    Cursor.skipFiller ⟨name.toList ++ rest, offset⟩ = some ⟨name.toList ++ rest, offset⟩ := by
  obtain ⟨first, more, htext, hfirst⟩ := exists_toList_eq_cons hname
  rw [htext]
  exact Cursor.skipFiller_of_not_isFiller (isFiller_of_isBareKeyChar hfirst) _ _

theorem skipFiller_printText (cs rest : List Char) (offset : Nat) :
    Cursor.skipFiller ⟨printText cs ++ rest, offset⟩ = some ⟨printText cs ++ rest, offset⟩ := by
  obtain ⟨quote, more, htext, rfl | rfl⟩ := exists_printText_eq_cons cs <;>
    rw [htext] <;> exact Cursor.skipFiller_of_not_isFiller rfl _ _

end AssetMenu.Document
