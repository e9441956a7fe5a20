import AssetMenu.Template.Literal
import Mathlib.Tactic.SplitIfs

/-!
# Reading texts in program text

Between quotes a program has characters that stand for themselves and escapes that stand for a
character.  A reader that stands behind the opening quote goes on to the quote that closes the
text, and undoes the escapes on its way.  Since every character is escaped by itself, a reader
never takes a part of one for the end of the text.
-/

namespace AssetMenu.Template

variable {c : Char} {body text rest : List Char}

/-! ## Readers -/

/-- The character that is written as a backslash and `c`. -/
def unescape? (c : Char) : Option Char :=
  if c = '\\' ∨ c = '"' then some c
  else if c = 'n' then some '\n'
  else if c = 'r' then some '\r'
  else if c = 't' then some '\t'
  else if c = '0' then some '\x00'
  else none

/-- The text up to the closing quote, and what stands behind it. -/
def literal? : List Char → Option (List Char × List Char)
  | [] => none
  | '"' :: rest => some ([], rest)
  | '\\' :: c :: rest =>
      (unescape? c).bind fun plain => (literal? rest).map (Prod.map (plain :: ·) id)
  | c :: rest => (literal? rest).map (Prod.map (c :: ·) id)

/-- `body` stands between the quotes of a text in a program, and the program means `text` by it.
Quotes, backslashes and line breaks do not stand for themselves. -/
inductive Denotes : List Char → List Char → Prop
  | nil : Denotes [] []
  | plain {c : Char} {body text : List Char} :
      c ≠ '\\' → c ≠ '"' → c ≠ '\n' → c ≠ '\r' → Denotes body text →
        Denotes (c :: body) (c :: text)
  | escaped {mark c : Char} {body text : List Char} :
      unescape? mark = some c → Denotes body text → Denotes ('\\' :: mark :: body) (c :: text)

/-- The reader knows exactly what a program means by what stands between quotes. -/
theorem literal?_of_denotes (hbody : Denotes body text) (rest : List Char) :
    literal? (body ++ '"' :: rest) = some (text, rest) := by
  induction hbody with
  | nil => rfl
  | plain hbackslash hquote _ _ _ ih => simp [literal?, hbackslash, ih]
  | escaped hmark _ ih => simp [literal?, hmark, ih]

/-! ## Escapes -/

/-- The characters with an escape of their own that would not show in a program. -/
def unseen : List Char :=
  ['\r', '\n', '\t', '\x00']

/-- A character is either escaped by one that stands for it, or one that needs no
escape. -/
theorem escapeChar_cases (c : Char) :
    (∃ mark, escapeChar c = ['\\', mark] ∧ unescape? mark = some c ∧ mark ∉ unseen) ∨
      (escapeChar c = [c] ∧ c ≠ '\\' ∧ c ≠ '"' ∧ c ∉ unseen) := by
  unfold escapeChar
  split_ifs with hbackslash hquote hnewline hreturn htab hnull
  case neg => exact Or.inr ⟨rfl, hbackslash, hquote, by simp [unseen, *]⟩
  all_goals subst c
  all_goals exact Or.inl ⟨_, rfl, by simp [unescape?], by decide⟩

theorem denotes_escape (text : List Char) : Denotes (text.flatMap escapeChar) text := by
  induction text with
  | nil => exact .nil
  | cons c text ih =>
      rw [List.flatMap_cons]
      rcases escapeChar_cases c with
        ⟨mark, hescape, hmark, -⟩ | ⟨hplain, hbackslash, hquote, hunseen⟩
      · rw [hescape]
        exact .escaped hmark ih
      · simp only [unseen, List.mem_cons, not_or] at hunseen
        rw [hplain]
        exact .plain hbackslash hquote hunseen.2.1 hunseen.1 ih

/-- Whatever stands behind a text, what is read is the text as it was before it was
escaped. -/
theorem literal?_escape (text rest : List Char) :
    literal? (text.flatMap escapeChar ++ '"' :: rest) = some (text, rest) :=
  literal?_of_denotes (denotes_escape text) rest

theorem not_mem_escapeChar_of_mem_unseen {d : Char} (hc : c ∈ unseen) : c ∉ escapeChar d := by
  have hbackslash : c ≠ '\\' := by
    rintro rfl
    contradiction
  rcases escapeChar_cases d with ⟨mark, hescape, -, hmark⟩ | ⟨hplain, -, -, hunseen⟩
  · have hne : c ≠ mark := fun hsame => hmark (hsame ▸ hc)
    simp [hescape, hbackslash, hne]
  · have hne : c ≠ d := fun hsame => hunseen (hsame ▸ hc)
    simp [hplain, hne]

theorem not_mem_escape_of_mem_unseen {text : String} (hc : c ∈ unseen) :
    c ∉ (escape text).toList := by
  simp [escape, not_mem_escapeChar_of_mem_unseen hc]

theorem newline_not_mem_escape (text : String) : '\n' ∉ (escape text).toList :=
  not_mem_escape_of_mem_unseen (by decide)

theorem newline_not_mem_singleLine (text : String) : '\n' ∉ (singleLine text).toList := by
  rw [singleLine, String.toList_ofList, List.mem_map]
  rintro ⟨c, -, hc⟩
  split at hc
  next => simp at hc
  next hplain => exact hplain (Or.inr hc)

end AssetMenu.Template
