import AssetMenu.Document.Statement
import AssetMenu.Proofs.Document.Marking
import Mathlib.Data.Option.Basic

/-!
# Readers move forward

A reader passes over a text and ends behind it.  What it has ahead afterwards is what is left of
what it had ahead before, and its offset has grown by the bytes of what was passed over.  So the two
positions around a reader's work are the place of the text that was read.
-/

namespace AssetMenu.Document

open Text

namespace Cursor

variable {c next last : Cursor} {rest passed : List Char} {offset bytes : Nat}

/-- `c` leads to `next` by passing over a text. -/
def Leads (c next : Cursor) : Prop :=
  ∃ passed, c.rest = passed ++ next.rest ∧ next.offset = c.offset + byteCount passed

theorem Leads.refl (c : Cursor) : c.Leads c :=
  ⟨[], rfl, rfl⟩

theorem Leads.trans (hfirst : c.Leads next) (hsecond : next.Leads last) : c.Leads last := by
  obtain ⟨first, hrest, hoffset⟩ := hfirst
  obtain ⟨second, hrest', hoffset'⟩ := hsecond
  exact ⟨first ++ second, by rw [hrest, hrest', List.append_assoc],
    by rw [hoffset', hoffset, byteCount_append, Nat.add_assoc]⟩

/-- One step over a text that is known. -/
theorem leads_over (passed : List Char) (hrest : c.rest = passed ++ rest)
    (hbytes : byteCount passed = bytes) : c.Leads ⟨rest, c.offset + bytes⟩ :=
  ⟨passed, hrest, by rw [hbytes]⟩

/-- One step over a text that is known, and what follows. -/
theorem Leads.behind (passed : List Char) (hbytes : byteCount passed = bytes)
    (hnext : Leads ⟨rest, offset + bytes⟩ next) : Leads ⟨passed ++ rest, offset⟩ next :=
  (leads_over passed rfl hbytes).trans hnext

/-- One step over a character, and what follows. -/
theorem Leads.cons {a : Char} (hnext : Leads ⟨rest, offset + a.utf8Size⟩ next) :
    Leads ⟨a :: rest, offset⟩ next :=
  hnext.behind [a] rfl

theorem leads_takeWhile (p : Char → Bool) (c : Cursor) : c.Leads (c.takeWhile p).2 :=
  ⟨c.rest.takeWhile p, List.takeWhile_append_dropWhile.symm, rfl⟩

theorem leads_skipSpaces (c : Cursor) : c.Leads c.skipSpaces :=
  leads_takeWhile isSpace c

theorem leads_expect {expected : Char} (hread : c.expect expected = some next) :
    c.Leads next := by
  rw [expect] at hread
  split at hread
  next a rest hrest =>
    split at hread
    next =>
      obtain rfl := Option.some.inj hread
      exact leads_over [a] hrest rfl
    next => simp at hread
  next => simp at hread

theorem utf8Size_of_isSpace {a : Char} (hspace : isSpace a = true) : a.utf8Size = 1 := by
  simp only [isSpace, Bool.or_eq_true, beq_iff_eq] at hspace
  rcases hspace with rfl | rfl <;> rfl

theorem leads_skipFillerFrom {inComment : Bool}
    (hread : skipFillerFrom inComment rest offset = some next) : Leads ⟨rest, offset⟩ next := by
  fun_induction skipFillerFrom inComment rest offset
  case case1 | case8 =>
    obtain rfl := Option.some.inj hread
    exact .refl _
  case case2 ih => exact (ih hread).behind ['\n'] rfl
  case case3 ih => exact (ih hread).behind ['\r', '\n'] rfl
  case case4 ih => exact (ih hread).cons
  case case5 => simp at hread
  case case6 hspace ih => exact (ih hread).behind [_] (utf8Size_of_isSpace hspace)
  case case7 ih => exact (ih hread).behind ['#'] rfl

theorem leads_skipFiller (hread : c.skipFiller = some next) : c.Leads next :=
  leads_skipFillerFrom hread

theorem leads_skipComment (hread : skipComment rest offset = some next) :
    Leads ⟨rest, offset⟩ next := by
  fun_induction skipComment rest offset
  case case1 | case2 | case3 =>
    obtain rfl := Option.some.inj hread
    exact .refl _
  case case4 ih => exact (ih hread).cons
  case case5 => simp at hread

theorem leads_lineEnd
    (hread : (match c.rest with
      | [] => some c
      | '\n' :: rest => some ⟨rest, c.offset + 1⟩
      | '\r' :: '\n' :: rest => some ⟨rest, c.offset + 2⟩
      | _ => none) = some next) : c.Leads next := by
  split at hread
  next =>
    obtain rfl := Option.some.inj hread
    exact .refl _
  next rest hrest =>
    obtain rfl := Option.some.inj hread
    exact leads_over ['\n'] hrest rfl
  next rest hrest =>
    obtain rfl := Option.some.inj hread
    exact leads_over ['\r', '\n'] hrest rfl
  next => simp at hread

theorem leads_skipLineEnd (hread : c.skipLineEnd = some next) : c.Leads next := by
  apply (leads_skipSpaces c).trans
  unfold skipLineEnd at hread
  dsimp only at hread
  split at hread
  next rest hrest =>
    obtain ⟨behind, hcomment, hend⟩ := Option.bind_eq_some_iff.mp hread
    exact (leads_over ['#'] hrest rfl).trans
      ((leads_skipComment hcomment).trans (leads_lineEnd hend))
  next => exact leads_lineEnd hread

theorem leads_ofSource (source : List Char) : Leads ⟨source, 0⟩ (ofSource source) := by
  unfold ofSource
  split
  next rest => exact ⟨['\uFEFF'], rfl, rfl⟩
  next => exact .refl _

end Cursor

/-! ## Quoted texts -/

namespace Quotation

variable {c next : Cursor} {rest text digits : List Char} {offset : Nat}

theorem leads_of_push {a : Char} {tail : Option (List Char × Cursor)}
    (hread : push a tail = some (text, next))
    (htail : ∀ {inner}, tail = some (inner, next) → c.Leads next) : c.Leads next := by
  obtain ⟨⟨inner, last⟩, hinner, hresult⟩ := Option.map_eq_some_iff.mp hread
  obtain ⟨-, rfl⟩ := Prod.mk.inj hresult
  exact htail hinner

theorem utf8Size_of_hexDigit? {a : Char} {value : Nat} (hdigit : hexDigit? a = some value) :
    a.utf8Size = 1 := by
  have hle : a.val ≤ 127 := by
    unfold hexDigit? at hdigit
    simp only [Char.le_def] at hdigit
    split at hdigit
    next h => exact UInt32.le_trans h.2 (by decide)
    split at hdigit
    next h => exact UInt32.le_trans h.2 (by decide)
    split at hdigit
    next h => exact UInt32.le_trans h.2 (by decide)
    next => simp at hdigit
  exact if_pos hle

theorem byteCount_of_hexDigits {initial value : Nat}
    (hdigits : digits.foldlM (fun value a => (hexDigit? a).map (16 * value + ·)) initial =
      some value) : byteCount digits = digits.length := by
  induction digits generalizing initial with
  | nil => rfl
  | cons a digits ih =>
      rw [List.foldlM_cons] at hdigits
      obtain ⟨next, hnext, hrest⟩ := Option.bind_eq_some_iff.mp hdigits
      obtain ⟨_, hdigit, -⟩ := Option.map_eq_some_iff.mp hnext
      rw [byteCount_cons, utf8Size_of_hexDigit? hdigit, ih hrest, List.length_cons, Nat.add_comm]

theorem byteCount_of_codePoint? {a : Char} (hcode : codePoint? digits = some a) :
    byteCount digits = digits.length := by
  obtain ⟨value, hvalue, -⟩ := Option.bind_eq_some_iff.mp hcode
  exact byteCount_of_hexDigits hvalue

theorem utf8Size_of_shortEscape? {e a : Char} (hescape : shortEscape? e = some a) :
    e.utf8Size = 1 := by
  unfold shortEscape? at hescape
  split at hescape
  all_goals first | rfl | simp at hescape

theorem byteCount_of_shortEscape? {e a : Char} (hescape : shortEscape? e = some a) :
    byteCount ['\\', e] = 2 := by
  rw [byteCount_cons, byteCount_cons, utf8Size_of_shortEscape? hescape]
  rfl

/-- A reader that takes an escape by number and goes on behind it. -/
theorem leads_numberEscape {x : Char} {read : List Char → Nat → Option (List Char × Cursor)}
    (hx : x.utf8Size = 1)
    (hread : ((codePoint? digits).bind fun a => push a (read rest (offset + (digits.length + 2)))) =
      some (text, next))
    (hrest : ∀ {inner}, read rest (offset + (digits.length + 2)) = some (inner, next) →
      Cursor.Leads ⟨rest, offset + (digits.length + 2)⟩ next) :
    Cursor.Leads ⟨'\\' :: x :: (digits ++ rest), offset⟩ next := by
  obtain ⟨a, hcode, hread⟩ := Option.bind_eq_some_iff.mp hread
  refine (leads_of_push hread hrest).behind ('\\' :: x :: digits) ?_
  have hbackslash : '\\'.utf8Size = 1 := rfl
  rw [byteCount_cons, byteCount_cons, byteCount_of_codePoint? hcode, hx, hbackslash]
  omega

theorem leads_literal (hread : literal rest offset = some (text, next)) :
    Cursor.Leads ⟨rest, offset⟩ next := by
  fun_induction literal rest offset generalizing text
  case case1 => simp at hread
  case case2 rest offset =>
    obtain ⟨-, rfl⟩ := Prod.mk.inj (Option.some.inj hread)
    exact Cursor.leads_over ['\''] rfl rfl
  case case3 ih => exact (leads_of_push hread ih).cons
  case case4 => simp at hread

theorem leads_basic (hread : basic rest offset = some (text, next)) :
    Cursor.Leads ⟨rest, offset⟩ next := by
  fun_induction basic rest offset generalizing text
  case case1 => simp at hread
  case case2 rest offset =>
    obtain ⟨-, rfl⟩ := Prod.mk.inj (Option.some.inj hread)
    exact Cursor.leads_over ['"'] rfl rfl
  case case3 a b rest offset ih => exact leads_numberEscape rfl hread ih
  case case4 ih => exact leads_numberEscape rfl hread ih
  case case5 ih => exact leads_numberEscape rfl hread ih
  case case6 ih =>
    obtain ⟨_, hescape, hread⟩ := Option.bind_eq_some_iff.mp hread
    exact (leads_of_push hread ih).behind ['\\', _] (byteCount_of_shortEscape? hescape)
  case case7 ih => exact (leads_of_push hread ih).cons
  case case8 => simp at hread

/-- Up to two quotes belong to the text before the closing ones. -/
theorem leads_closing {quote : Char} (hquote : quote.utf8Size = 1) (rest : List Char)
    (offset : Nat) : Cursor.Leads ⟨rest, offset⟩ (closing quote rest offset).2 := by
  unfold closing
  split
  next a b more =>
    split
    next hboth =>
      obtain ⟨rfl, rfl⟩ := hboth
      exact Cursor.leads_over [_, _] rfl (by simp [hquote])
    next =>
      split
      next hone =>
        subst hone
        exact Cursor.leads_over [_] rfl (by simp [hquote])
      next => exact .refl _
  next a =>
    split
    next hone =>
      subst hone
      exact Cursor.leads_over [_] rfl (by simp [hquote])
    next => exact .refl _
  next => exact .refl _

theorem leads_multilineBasic {skipping : Bool}
    (hread : multilineBasic skipping rest offset = some (text, next)) :
    Cursor.Leads ⟨rest, offset⟩ next := by
  fun_induction multilineBasic skipping rest offset generalizing text
  case case1 => simp at hread
  case case2 skipping rest offset =>
    obtain ⟨-, rfl⟩ := Prod.mk.inj (Option.some.inj hread)
    exact (leads_closing rfl _ _).behind ['"', '"', '"'] rfl
  case case3 ih => exact leads_numberEscape rfl hread ih
  case case4 ih => exact leads_numberEscape rfl hread ih
  case case5 ih => exact leads_numberEscape rfl hread ih
  case case6 ih => exact (ih hread).behind ['\\'] rfl
  case case7 ih =>
    obtain ⟨_, hescape, hread⟩ := Option.bind_eq_some_iff.mp hread
    exact (leads_of_push hread ih).behind ['\\', _] (byteCount_of_shortEscape? hescape)
  case case8 ih => exact (ih hread).behind ['\r', '\n'] rfl
  case case9 ih =>
    exact (leads_of_push hread fun hread => leads_of_push hread ih).behind ['\r', '\n'] rfl
  case case10 ih => exact (ih hread).behind ['\n'] rfl
  case case11 ih => exact (leads_of_push hread ih).behind ['\n'] rfl
  case case12 hspace ih =>
    exact (ih hread).behind [_] (Cursor.utf8Size_of_isSpace (Bool.and_eq_true_iff.mp hspace).2)
  case case13 ih => exact (leads_of_push hread ih).cons
  case case14 => simp at hread

theorem leads_multilineLiteral (hread : multilineLiteral rest offset = some (text, next)) :
    Cursor.Leads ⟨rest, offset⟩ next := by
  fun_induction multilineLiteral rest offset generalizing text
  case case1 => simp at hread
  case case2 rest offset =>
    obtain ⟨-, rfl⟩ := Prod.mk.inj (Option.some.inj hread)
    exact (leads_closing rfl _ _).behind ['\'', '\'', '\''] rfl
  case case3 ih =>
    exact (leads_of_push hread fun hread => leads_of_push hread ih).behind ['\r', '\n'] rfl
  case case4 ih => exact (leads_of_push hread ih).behind ['\n'] rfl
  case case5 ih => exact (leads_of_push hread ih).cons
  case case6 => simp at hread

theorem leads_skipFirstLineEnd (c : Cursor) : c.Leads (skipFirstLineEnd c) := by
  unfold skipFirstLineEnd
  split
  next rest hrest => exact Cursor.leads_over ['\n'] hrest rfl
  next rest hrest => exact Cursor.leads_over ['\r', '\n'] hrest rfl
  next => exact .refl _

end Quotation

section Values

variable {c next : Cursor}

theorem leads_readQuoted {text : List Char} (hread : readQuoted c = some (text, next)) :
    c.Leads next := by
  rw [readQuoted] at hread
  split at hread
  next rest hrest =>
    exact (Cursor.leads_over ['"'] hrest rfl).trans (Quotation.leads_basic hread)
  next rest hrest =>
    exact (Cursor.leads_over ['\''] hrest rfl).trans (Quotation.leads_literal hread)
  next => simp at hread

theorem leads_readText {text : List Char} (hread : readText c = some (text, next)) :
    c.Leads next := by
  rw [readText] at hread
  split at hread
  next rest hrest =>
    exact (Cursor.leads_over ['"', '"', '"'] hrest rfl).trans
      ((Quotation.leads_skipFirstLineEnd _).trans (Quotation.leads_multilineBasic hread))
  next rest hrest =>
    exact (Cursor.leads_over ['\'', '\'', '\''] hrest rfl).trans
      ((Quotation.leads_skipFirstLineEnd _).trans (Quotation.leads_multilineLiteral hread))
  next => exact leads_readQuoted hread

theorem wordOf_append_drop (rest : List Char) :
    Scalar.wordOf rest ++ rest.drop (Scalar.wordOf rest).length = rest := by
  induction rest with
  | nil => rfl
  | cons a rest ih =>
      rw [Scalar.wordOf]
      split
      next => simp [ih]
      next => rfl

theorem leads_readScalar {value : Scalar} (hread : Scalar.read c = some (value, next)) :
    c.Leads next := by
  rw [Scalar.read] at hread
  split at hread
  next =>
    obtain ⟨⟨text, last⟩, htext, hresult⟩ := Option.map_eq_some_iff.mp hread
    obtain ⟨-, rfl⟩ := Prod.mk.inj hresult
    exact leads_readText htext
  next =>
    obtain ⟨⟨text, last⟩, htext, hresult⟩ := Option.map_eq_some_iff.mp hread
    obtain ⟨-, rfl⟩ := Prod.mk.inj hresult
    exact leads_readText htext
  next =>
    obtain ⟨word, -, hresult⟩ := Option.map_eq_some_iff.mp hread
    obtain ⟨-, rfl⟩ := Prod.mk.inj hresult
    exact ⟨Scalar.wordOf c.rest, (wordOf_append_drop c.rest).symm, rfl⟩

theorem leads_readKey {key : Key} (hread : readKey c = some (key, next)) :
    c.Leads next ∧ key.span = c.spanTo next := by
  rw [readKey] at hread
  split at hread
  next =>
    obtain ⟨⟨text, last⟩, htext, hresult⟩ := Option.map_eq_some_iff.mp hread
    obtain ⟨rfl, rfl⟩ := Prod.mk.inj hresult
    exact ⟨leads_readQuoted htext, rfl⟩
  next =>
    obtain ⟨⟨text, last⟩, htext, hresult⟩ := Option.map_eq_some_iff.mp hread
    obtain ⟨rfl, rfl⟩ := Prod.mk.inj hresult
    exact ⟨leads_readQuoted htext, rfl⟩
  next =>
    split at hread
    next word last hword =>
      split at hread
      next => simp at hread
      next =>
        obtain ⟨rfl, rfl⟩ := Prod.mk.inj (Option.some.inj hread)
        have hleads := Cursor.leads_takeWhile isBareKeyChar c
        rw [hword] at hleads
        exact ⟨hleads, rfl⟩

end Values

end AssetMenu.Document
