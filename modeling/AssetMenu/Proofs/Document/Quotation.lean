import AssetMenu.Document.Printer
import AssetMenu.Document.Quotation
import Mathlib.Tactic.SplitIfs

/-!
# Texts are read back

Whatever form a text is written in, its reader takes it for the same text again.  Each
form is read character by character: what is written for one character is read as that
character, whatever follows.  Between three quotes this leaves the bare quotes, of which
no more than two stand in a row, and which the closing quotes may follow at once.
-/

namespace AssetMenu.Document

open Text Printer Quotation

variable {quote c : Char} {cs text rest : List Char} {run offset : Nat}

/-! ## Escapes -/

theorem isPlain_iff : Cursor.isPlain c = true ↔ isControl c = false ∧ c ≠ '\n' := by
  by_cases htab : c = '\t'
  · subst htab
    decide
  by_cases hline : c = '\n'
  · subst hline
    decide
  simp [Cursor.isPlain, isControl, htab, hline]
  omega

theorem ne_return_of_isControl_eq_false (hc : isControl c = false) : c ≠ '\r' := by
  rintro rfl
  contradiction

/-- The number of an ASCII character is written with two digits, which are ASCII as well. -/
theorem codePoint?_upperHex (hascii : c.toNat < 128) :
    codePoint? ['0', '0', upperHex (c.toNat / 16), upperHex (c.toNat % 16)] = some c ∧
      byteCount [upperHex (c.toNat / 16), upperHex (c.toNat % 16)] = 2 := by
  have hall : ∀ n < 128,
      codePoint? ['0', '0', upperHex (n / 16), upperHex (n % 16)] = some (Char.ofNat n) ∧
        byteCount [upperHex (n / 16), upperHex (n % 16)] = 2 := by
    decide
  simpa [Char.ofNat_toNat] using hall c.toNat hascii

theorem byteCount_numberEscape (high low : Char) :
    byteCount ['\\', 'u', '0', '0', high, low] = 4 + byteCount [high, low] := by
  simp only [byteCount_cons, ← Nat.add_assoc]
  rfl

/-- An escape is a backslash with a letter, or with the number of the character. -/
theorem eq_of_escape?_eq_some (hescape : escape? c = some text) :
    (∃ letter ∈ ['b', 't', 'f', 'r', '\\'],
      text = ['\\', letter] ∧ shortEscape? letter = some c) ∨
    ∃ high low, text = ['\\', 'u', '0', '0', high, low] ∧ byteCount [high, low] = 2 ∧
      codePoint? ['0', '0', high, low] = some c := by
  unfold escape? at hescape
  split_ifs at hescape with hb ht hf hr hbackslash hcontrol <;>
    obtain rfl := Option.some.inj hescape
  · exact Or.inl ⟨'b', by decide, rfl, by rw [hb]; rfl⟩
  · exact Or.inl ⟨'t', by decide, rfl, by rw [ht]; rfl⟩
  · exact Or.inl ⟨'f', by decide, rfl, by rw [hf]; rfl⟩
  · exact Or.inl ⟨'r', by decide, rfl, by rw [hr]; rfl⟩
  · exact Or.inl ⟨'\\', by decide, rfl, by rw [hbackslash]; rfl⟩
  · have hascii : c.toNat < 128 := by
      simp only [isControl, Bool.or_eq_true, Bool.and_eq_true, decide_eq_true_eq,
        beq_iff_eq] at hcontrol
      omega
    obtain ⟨hnumber, hbytes⟩ := codePoint?_upperHex hascii
    exact Or.inr ⟨_, _, rfl, hbytes, hnumber⟩

/-- A character without an escape stands for itself, unless it ends a line. -/
theorem of_escape?_eq_none (hescape : escape? c = none) :
    c ≠ '\\' ∧ (c = '\n' ∨ Cursor.isPlain c = true) := by
  unfold escape? at hescape
  split_ifs at hescape with hb ht hf hr hbackslash hcontrol
  refine ⟨hbackslash, ?_⟩
  by_cases hline : c = '\n'
  · exact Or.inl hline
  · exact Or.inr (isPlain_iff.mpr ⟨by simpa using hcontrol, hline⟩)

/-! ## One character -/

/-- The reader takes `text` for the character, whatever follows. -/
def ReadsChar (read : List Char → Nat → Option (List Char × Cursor)) (c : Char)
    (text : List Char) : Prop :=
  ∀ rest offset, read (text ++ rest) offset = push c (read rest (offset + byteCount text))

theorem readsChar_basic_of_escape (hescape : escape? c = some text) : ReadsChar basic c text := by
  intro rest offset
  rcases eq_of_escape?_eq_some hescape with
    ⟨letter, hletter, rfl, hshort⟩ | ⟨high, low, rfl, hbytes, hnumber⟩
  · simp only [List.mem_cons, List.not_mem_nil, or_false] at hletter
    rcases hletter with rfl | rfl | rfl | rfl | rfl <;> simp [basic, hshort] <;> rfl
  · rw [byteCount_numberEscape, hbytes]
    simp [basic, hnumber]

theorem readsChar_multilineBasic_of_escape (hescape : escape? c = some text) :
    ReadsChar (multilineBasic false) c text := by
  intro rest offset
  rcases eq_of_escape?_eq_some hescape with
    ⟨letter, hletter, rfl, hshort⟩ | ⟨high, low, rfl, hbytes, hnumber⟩
  · simp only [List.mem_cons, List.not_mem_nil, or_false] at hletter
    rcases hletter with rfl | rfl | rfl | rfl | rfl <;>
      simp [multilineBasic, hshort, lineContinues, List.dropWhile, Cursor.isSpace] <;> rfl
  · rw [byteCount_numberEscape, hbytes]
    simp [multilineBasic, hnumber]

theorem readsChar_basicChar (c : Char) : ReadsChar basic c (basicChar c) := by
  unfold basicChar
  split_ifs with hquote hline
  · intro rest offset
    subst hquote
    simp [basic, shortEscape?]
    rfl
  · intro rest offset
    subst hline
    simp [basic, shortEscape?]
    rfl
  · cases hescape : escape? c with
    | some text => exact readsChar_basic_of_escape hescape
    | none =>
        intro rest offset
        obtain ⟨hbackslash, hplain⟩ := of_escape?_eq_none hescape
        have hplain := hplain.resolve_left hline
        simp [basic, hplain, hbackslash]

theorem readsChar_multilineBasic (hquote : c ≠ '"') :
    ReadsChar (multilineBasic false) c ((escape? c).getD [c]) := by
  cases hescape : escape? c with
  | some text => exact readsChar_multilineBasic_of_escape hescape
  | none =>
      intro rest offset
      obtain ⟨hbackslash, rfl | hplain⟩ := of_escape?_eq_none hescape
      · simp [multilineBasic]
        rfl
      · obtain ⟨hcontrol, hline⟩ := isPlain_iff.mp hplain
        have hreturn := ne_return_of_isControl_eq_false hcontrol
        simp [multilineBasic, hplain, hbackslash, hquote, hreturn]

theorem readsChar_multilineLiteral (hquote : c ≠ '\'') (hcontrol : isControl c = false) :
    ReadsChar multilineLiteral c [c] := by
  intro rest offset
  by_cases hline : c = '\n'
  · subst hline
    simp [multilineLiteral]
    rfl
  · have hplain := isPlain_iff.mpr ⟨hcontrol, hline⟩
    have hreturn := ne_return_of_isControl_eq_false hcontrol
    simp [multilineLiteral, hplain, hquote, hreturn]

/-! ## Texts on one line -/

theorem basic_flatMap (cs rest : List Char) (offset : Nat) :
    basic (cs.flatMap basicChar ++ '"' :: rest) offset =
      some (cs, ⟨rest, offset + byteCount (cs.flatMap basicChar) + 1⟩) := by
  induction cs generalizing offset with
  | nil => simp [basic]
  | cons c cs ih =>
      rw [List.flatMap_cons, List.append_assoc, readsChar_basicChar c, ih, byteCount_append]
      simp [push, Nat.add_assoc]

theorem literal_append (hcs : ∀ c ∈ cs, c ≠ '\'' ∧ Cursor.isPlain c = true) (rest : List Char)
    (offset : Nat) :
    literal (cs ++ '\'' :: rest) offset = some (cs, ⟨rest, offset + byteCount cs + 1⟩) := by
  induction cs generalizing offset with
  | nil => simp [literal]
  | cons c cs ih =>
      obtain ⟨⟨hquote, hplain⟩, hrest⟩ := List.forall_mem_cons.mp hcs
      rw [List.cons_append, literal, if_pos hplain, ih hrest]
      · simp [push, Nat.add_assoc]
      · exact hquote

/-! ## Texts between three quotes -/

/-- `first :: more` is written for `c` between three quotes.  It is read as `c`, it does not
look like a quote, and it looks like a line end only if `c` is one. -/
structure WrittenFor (quote : Char) (read : List Char → Nat → Option (List Char × Cursor))
    (c first : Char) (more : List Char) : Prop where
  reads : ReadsChar read c (first :: more)
  ne_quote : first ≠ quote
  ne_return : first ≠ '\r'
  newline : first = '\n' → c = '\n'

/-- `text` spells `cs` between three quotes, where `run` bare quotes stand before it: no more
than two bare quotes stand in a row, and every other character is written in its place. -/
inductive Spells (quote : Char) (read : List Char → Nat → Option (List Char × Cursor)) :
    Nat → List Char → List Char → Prop
  | nil {run : Nat} : Spells quote read run [] []
  | quote {run : Nat} {cs text : List Char} :
      run < 2 → Spells quote read (run + 1) cs text →
        Spells quote read run (quote :: cs) (quote :: text)
  | char {run : Nat} {c first : Char} {cs more text : List Char} :
      WrittenFor quote read c first more → Spells quote read 0 cs text →
        Spells quote read run (c :: cs) (first :: more ++ text)

theorem writtenFor_escapedQuote : WrittenFor '"' (multilineBasic false) '"' '\\' ['"'] where
  reads rest offset := by
    simp [multilineBasic, shortEscape?, lineContinues, List.dropWhile, Cursor.isSpace]
    rfl
  ne_quote := by decide
  ne_return := by decide
  newline := by decide

theorem exists_writtenFor (hquote : c ≠ '"') :
    ∃ first more, (escape? c).getD [c] = first :: more ∧
      WrittenFor '"' (multilineBasic false) c first more := by
  have hreads := readsChar_multilineBasic hquote
  cases hescape : escape? c with
  | some escaped =>
      have hfirst : ∃ more, escaped = '\\' :: more := by
        rcases eq_of_escape?_eq_some hescape with ⟨_, _, rfl, -⟩ | ⟨_, _, rfl, -⟩ <;> exact ⟨_, rfl⟩
      obtain ⟨more, rfl⟩ := hfirst
      rw [hescape, Option.getD_some] at hreads
      exact ⟨'\\', more, rfl, hreads, by decide, by decide, nofun⟩
  | none =>
      rw [hescape, Option.getD_none] at hreads
      refine ⟨c, [], rfl, hreads, hquote, ?_, id⟩
      rintro rfl
      contradiction

theorem spells_multilineChars (hrun : run ≤ 2) (cs : List Char) :
    Spells '"' (multilineBasic false) run cs (multilineChars run cs) := by
  induction cs generalizing run with
  | nil => exact .nil
  | cons c cs ih =>
      rw [multilineChars]
      split_ifs with hquote hfull
      · subst hquote
        exact .char writtenFor_escapedQuote (ih (Nat.zero_le 2))
      · subst hquote
        exact .quote (by omega) (ih (by omega))
      · obtain ⟨first, more, htext, hwritten⟩ := exists_writtenFor hquote
        rw [htext]
        exact .char hwritten (ih (Nat.zero_le 2))

theorem le_of_hasLongRun_eq_false (hlong : hasLongRun quote run cs = false) : run ≤ 2 := by
  induction cs generalizing run with
  | nil => simpa [hasLongRun] using hlong
  | cons c cs ih =>
      rw [hasLongRun] at hlong
      split at hlong
      · exact Nat.le_of_succ_le (ih hlong)
      · simpa using (Bool.or_eq_false_iff.mp hlong).1

theorem spells_self (hcs : ∀ c ∈ cs, isControl c = false)
    (hlong : hasLongRun '\'' run cs = false) : Spells '\'' multilineLiteral run cs cs := by
  induction cs generalizing run with
  | nil => exact .nil
  | cons c cs ih =>
      obtain ⟨hcontrol, hrest⟩ := List.forall_mem_cons.mp hcs
      rw [hasLongRun] at hlong
      split at hlong
      next hquote =>
        subst hquote
        exact .quote (le_of_hasLongRun_eq_false hlong) (ih hrest hlong)
      next hquote =>
        obtain ⟨-, hlong⟩ := Bool.or_eq_false_iff.mp hlong
        have hreturn := ne_return_of_isControl_eq_false hcontrol
        have hreads := readsChar_multilineLiteral hquote hcontrol
        exact .char ⟨hreads, hquote, hreturn, id⟩ (ih hrest hlong)

/-- A reader of texts between three quotes: three quotes close the text, and a quote that
no two others follow belongs to it. -/
structure ReadsBetweenThree (quote : Char)
    (read : List Char → Nat → Option (List Char × Cursor)) : Prop where
  isQuote : quote = '"' ∨ quote = '\''
  closes : ∀ rest offset,
    read (quote :: quote :: quote :: rest) offset = some (closing quote rest (offset + 3))
  keeps : ∀ rest offset, ¬ [quote, quote] <+: rest →
    read (quote :: rest) offset = push quote (read rest (offset + 1))

theorem readsBetweenThree_multilineBasic : ReadsBetweenThree '"' (multilineBasic false) where
  isQuote := Or.inl rfl
  closes rest offset := by rw [multilineBasic]
  keeps rest offset hrest := by
    rw [multilineBasic]
    · rfl
    · rintro more - rfl
      exact hrest ⟨more, rfl⟩
    all_goals simp

theorem readsBetweenThree_multilineLiteral : ReadsBetweenThree '\'' multilineLiteral where
  isQuote := Or.inr rfl
  closes rest offset := by rw [multilineLiteral]
  keeps rest offset hrest := by
    rw [multilineLiteral]
    · rfl
    · rintro more - rfl
      exact hrest ⟨more, rfl⟩
    all_goals simp

/-- Up to two quotes behind the first three belong to the text. -/
theorem closing_replicate (count : Nat) (hcount : count ≤ 2) (hrest : rest.head? ≠ some quote)
    (offset : Nat) :
    closing quote (List.replicate count quote ++ rest) offset =
      (List.replicate count quote, ⟨rest, offset + count⟩) := by
  have hcases : count = 0 ∨ count = 1 ∨ count = 2 := by omega
  rcases hcases with rfl | rfl | rfl
  · rcases rest with _ | ⟨a, _ | ⟨b, more⟩⟩ <;> simp_all [closing]
  · cases rest <;> simp_all [closing]
  · simp [closing, List.replicate_succ]

namespace Spells

variable {read : List Char → Nat → Option (List Char × Cursor)}

/-- Behind a bare quote two more stand only if the text ends there or one quote later. -/
theorem eq_or_not_prefix (hspells : Spells quote read (run + 1) cs text) (rest : List Char) :
    (cs = [] ∧ text = []) ∨ (cs = [quote] ∧ text = [quote]) ∨
      ¬ [quote, quote] <+: text ++ quote :: quote :: quote :: rest := by
  cases hspells with
  | nil => simp
  | char hwritten => simp [Ne.symm hwritten.ne_quote]
  | quote hrun hspells =>
      cases hspells with
      | nil => simp
      | quote hrun' => omega
      | char hwritten => simp [Ne.symm hwritten.ne_quote]

/-- What is spelled between three quotes is read back, with the quotes it ends with. -/
theorem read_eq (hspells : Spells quote read run cs text) (hread : ReadsBetweenThree quote read)
    (hrest : rest.head? ≠ some quote) (offset : Nat) :
    read (text ++ quote :: quote :: quote :: rest) offset =
      some (cs, ⟨rest, offset + byteCount text + 3⟩) := by
  have hsize : quote.utf8Size = 1 := by
    rcases hread.isQuote with rfl | rfl <;> rfl
  induction hspells generalizing offset with
  | nil =>
      rw [List.nil_append, hread.closes]
      exact congrArg some (closing_replicate 0 (Nat.zero_le 2) hrest _)
  | char hwritten _ ih =>
      rw [List.append_assoc, hwritten.reads, ih, byteCount_append]
      simp [push, Nat.add_assoc]
  | quote _ hspells ih =>
      -- If the text ends with this quote or the next one, the closing quotes are met here.
      rcases hspells.eq_or_not_prefix rest with ⟨rfl, rfl⟩ | ⟨rfl, rfl⟩ | hfurther
      · have hclosing := closing_replicate 1 (by omega) hrest (offset + 3)
        rw [List.replicate_one, List.singleton_append] at hclosing
        simp [hread.closes, hclosing, hsize, Nat.add_right_comm]
      · have hclosing := closing_replicate 2 (by omega) hrest (offset + 3)
        rw [List.replicate_succ, List.replicate_one, List.cons_append, List.singleton_append]
          at hclosing
        simp [hread.closes, hclosing, hsize, Nat.add_right_comm]
      · rw [List.cons_append, hread.keeps _ _ hfurther, ih]
        simp [push, hsize]
        omega

/-- A line end that was not put there for it is not taken off a text. -/
theorem skipFirstLineEnd_eq (hspells : Spells quote read run cs text)
    (hread : ReadsBetweenThree quote read) (hline : '\n' ∉ cs) (offset : Nat) :
    skipFirstLineEnd ⟨text ++ quote :: quote :: quote :: rest, offset⟩ =
      ⟨text ++ quote :: quote :: quote :: rest, offset⟩ := by
  cases hspells with
  | nil => rcases hread.isQuote with rfl | rfl <;> rfl
  | quote => rcases hread.isQuote with rfl | rfl <;> rfl
  | @char _ c first cs more text hwritten =>
      unfold skipFirstLineEnd
      split
      next heq =>
        obtain ⟨hfirst, -⟩ := List.cons.inj heq
        simp [hwritten.newline hfirst] at hline
      next heq =>
        obtain ⟨hfirst, -⟩ := List.cons.inj heq
        exact absurd hfirst hwritten.ne_return
      next => rfl

theorem read_tripleQuoted (hspells : Spells quote read 0 cs text)
    (hread : ReadsBetweenThree quote read) (hrest : rest.head? ≠ some quote) (offset : Nat) :
    ∃ inner, tripleQuoted quote cs text ++ rest = quote :: quote :: quote :: inner ∧
      read (skipFirstLineEnd ⟨inner, offset + 3⟩).rest
          (skipFirstLineEnd ⟨inner, offset + 3⟩).offset =
        some (cs, ⟨rest, offset + byteCount (tripleQuoted quote cs text)⟩) := by
  have hsize : quote.utf8Size = 1 := by
    rcases hread.isQuote with rfl | rfl <;> rfl
  by_cases hline : '\n' ∈ cs
  · refine ⟨'\n' :: text ++ quote :: quote :: quote :: rest, by simp [tripleQuoted, hline], ?_⟩
    have hread := hspells.read_eq hread hrest (offset + 3 + 1)
    have hnewline : '\n'.utf8Size = 1 := rfl
    have hbytes : byteCount (tripleQuoted quote cs text) = 3 + (1 + (byteCount text + 3)) := by
      simp [tripleQuoted, hline, hsize, hnewline]
      omega
    simp only [List.cons_append, skipFirstLineEnd, hread, hbytes, Nat.add_assoc]
  · refine ⟨text ++ quote :: quote :: quote :: rest, by simp [tripleQuoted, hline], ?_⟩
    rw [hspells.skipFirstLineEnd_eq hread hline, hspells.read_eq hread hrest]
    simp [tripleQuoted, hline, hsize]
    omega

end Spells

/-! ## Any form -/

theorem of_formOf_eq_literal (hform : formOf cs = .literal) :
    cs ≠ [] ∧ ∀ c ∈ cs, c ≠ '\'' ∧ Cursor.isPlain c = true := by
  constructor
  · rintro rfl
    contradiction
  · simp only [formOf] at hform
    split_ifs at hform with hbasic hliteral
    simp only [Bool.and_eq_true, Bool.not_eq_true', List.any_eq_false, List.contains_eq_mem,
      decide_eq_false_iff_not, Bool.not_eq_true] at hliteral
    obtain ⟨⟨hcontrol, hquote⟩, hline⟩ := hliteral
    intro c hc
    refine ⟨?_, isPlain_iff.mpr ⟨hcontrol c hc, ?_⟩⟩ <;> rintro rfl <;> contradiction

theorem of_formOf_eq_multilineLiteral (hform : formOf cs = .multilineLiteral) :
    (∀ c ∈ cs, isControl c = false) ∧ hasLongRun '\'' 0 cs = false := by
  simp only [formOf] at hform
  split_ifs at hform
  simp_all

/-- A text that is written on one line is read back, whatever follows. -/
theorem readQuoted_printText (hform : formOf cs = .basic ∨ formOf cs = .literal)
    (rest : List Char) (offset : Nat) :
    readQuoted ⟨printText cs ++ rest, offset⟩ =
      some (cs, ⟨rest, offset + byteCount (printText cs)⟩) := by
  rcases hform with hform | hform
  · have hread := basic_flatMap cs rest (offset + 1)
    have hsize : '"'.utf8Size = 1 := rfl
    simp [printText, hform, readQuoted, hread, hsize]
    omega
  · have hread := literal_append (of_formOf_eq_literal hform).2 rest (offset + 1)
    have hsize : '\''.utf8Size = 1 := rfl
    simp [printText, hform, readQuoted, hread, hsize]
    omega

theorem exists_printText_eq_cons (cs : List Char) :
    ∃ quote more, printText cs = quote :: more ∧ (quote = '"' ∨ quote = '\'') := by
  unfold printText
  split
  · exact ⟨_, _, rfl, Or.inl rfl⟩
  · exact ⟨_, _, rfl, Or.inr rfl⟩
  · exact ⟨_, _, rfl, Or.inl rfl⟩
  · exact ⟨_, _, rfl, Or.inr rfl⟩

theorem exists_basicChar_eq_cons (c : Char) :
    ∃ first more, basicChar c = first :: more ∧ first ≠ '"' := by
  unfold basicChar
  split_ifs with hquote
  · exact ⟨_, _, rfl, by decide⟩
  · exact ⟨_, _, rfl, by decide⟩
  · obtain ⟨first, more, htext, hwritten⟩ := exists_writtenFor hquote
    exact ⟨first, more, htext, hwritten.ne_quote⟩

theorem readText_eq_readQuoted (hfurther : ¬ [quote, quote] <+: rest) (offset : Nat) :
    readText ⟨quote :: rest, offset⟩ = readQuoted ⟨quote :: rest, offset⟩ := by
  unfold readText
  split
  next more heq =>
    obtain ⟨rfl, rfl⟩ := List.cons.inj heq
    exact absurd ⟨more, rfl⟩ hfurther
  next more heq =>
    obtain ⟨rfl, rfl⟩ := List.cons.inj heq
    exact absurd ⟨more, rfl⟩ hfurther
  next => rfl

/-- A text that is written is read back, unless a quote follows at once. -/
theorem readText_printText (hbasic : rest.head? ≠ some '"') (hliteral : rest.head? ≠ some '\'')
    (offset : Nat) :
    readText ⟨printText cs ++ rest, offset⟩ =
      some (cs, ⟨rest, offset + byteCount (printText cs)⟩) := by
  cases hform : formOf cs with
  | basic =>
      rw [← readQuoted_printText (Or.inl hform)]
      simp only [printText, hform, List.cons_append]
      apply readText_eq_readQuoted
      cases cs with
      | nil => cases rest <;> simp_all [Ne.symm]
      | cons c cs =>
          obtain ⟨first, more, htext, hfirst⟩ := exists_basicChar_eq_cons c
          simp [htext, Ne.symm hfirst]
  | literal =>
      rw [← readQuoted_printText (Or.inr hform)]
      simp only [printText, hform, List.cons_append]
      apply readText_eq_readQuoted
      obtain ⟨hnonempty, hcs⟩ := of_formOf_eq_literal hform
      cases cs with
      | nil => contradiction
      | cons c cs => simp [Ne.symm (hcs c List.mem_cons_self).1]
  | multilineBasic =>
      have hspells := spells_multilineChars (Nat.zero_le 2) cs
      obtain ⟨inner, htext, hread⟩ :=
        hspells.read_tripleQuoted readsBetweenThree_multilineBasic hbasic offset
      simp only [printText, hform]
      rw [htext]
      exact hread
  | multilineLiteral =>
      obtain ⟨hcontrol, hlong⟩ := of_formOf_eq_multilineLiteral hform
      have hspells := spells_self hcontrol hlong
      obtain ⟨inner, htext, hread⟩ :=
        hspells.read_tripleQuoted readsBetweenThree_multilineLiteral hliteral offset
      simp only [printText, hform]
      rw [htext]
      exact hread

end AssetMenu.Document
