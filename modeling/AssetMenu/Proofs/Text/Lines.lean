import AssetMenu.Proofs.Text.Fields
import AssetMenu.Text.Bytes

/-!
# Lines and their ends

A text is its first line, the end of that line, and the text behind.  The end of a line is a line
feed with or without a carriage return before it, and the line does not tell which.  So the bytes
of the lines give the place of a line only together with the number of returns before it.
-/

namespace AssetMenu.Text

variable {line rest : List Char}

/-- The number of line ends that are written with a carriage return. -/
def returns : List Char → Nat
  | [] => 0
  | '\r' :: '\n' :: rest => returns rest + 1
  | _ :: rest => returns rest

/-- A text is a last line, or it is a line and the text behind its line feed. -/
theorem inductionOnLines {p : List Char → Prop} (last : ∀ line, '\n' ∉ line → p line)
    (more : ∀ line rest, '\n' ∉ line → p rest → p (line ++ '\n' :: rest)) (cs : List Char) :
    p cs := by
  induction hlength : cs.length using Nat.strongRecOn generalizing cs with
  | _ length ih =>
      by_cases hline : '\n' ∈ cs
      · obtain ⟨line, rest, rfl, hfirst⟩ := List.eq_append_cons_of_mem hline
        refine more line rest hfirst (ih rest.length ?_ rest rfl)
        simp only [List.length_append, List.length_cons] at hlength
        omega
      · exact last cs hline

theorem forall_beq_newline_eq_false (hline : '\n' ∉ line) :
    ∀ c ∈ line, (c == '\n') = false := by
  intro c hc
  exact beq_eq_false_iff_ne.mpr fun hnewline => hline (hnewline ▸ hc)

theorem lines_of_not_mem (hline : '\n' ∉ line) :
    lines line = if line.isEmpty then [] else [line] := by
  rw [lines, fields_eq_singleton (forall_beq_newline_eq_false hline)]
  simp

theorem lines_append_newline (hline : '\n' ∉ line) (rest : List Char) :
    lines (line ++ '\n' :: rest) = dropReturn line :: lines rest := by
  rw [lines, fields_append_cut (forall_beq_newline_eq_false hline) rfl, lines]
  have hfields := fields_ne_nil (· == '\n') rest
  rw [List.dropLast_cons_of_ne_nil hfields, List.getLast?_cons_of_ne_nil hfields]
  rfl

/-! ## Returns -/

theorem dropReturn_eq_self (hline : line.getLast? ≠ some '\r') : dropReturn line = line := by
  rw [dropReturn, if_neg hline]

theorem dropReturn_append_return (line : List Char) : dropReturn (line ++ ['\r']) = line := by
  simp [dropReturn]

theorem returns_append_newline (hline : '\n' ∉ line) (rest : List Char) :
    returns (line ++ '\n' :: rest) =
      returns rest + (if line.getLast? = some '\r' then 1 else 0) := by
  induction line with
  | nil => simp [returns]
  | cons c line ih =>
      rw [List.mem_cons, not_or] at hline
      obtain ⟨hc, hrest⟩ := hline
      cases line with
      | nil =>
          by_cases hreturn : c = '\r'
          · simp [returns, hreturn]
          · simp [returns, hreturn]
      | cons d line =>
          have hd : d ≠ '\n' := by
            rintro rfl
            exact hrest List.mem_cons_self
          rw [List.getLast?_cons_cons, ← ih hrest]
          simp [returns, hd]

/-- A line end has one byte besides its return. -/
theorem byteCount_append_newline (line : List Char) :
    byteCount (line ++ ['\n']) =
      byteCount (dropReturn line) + 1 + (if line.getLast? = some '\r' then 1 else 0) := by
  by_cases hreturn : line.getLast? = some '\r'
  · obtain ⟨field, rfl⟩ := List.getLast?_eq_some_iff.mp hreturn
    simp [dropReturn_append_return]
    rfl
  · simp [dropReturn_eq_self hreturn, hreturn]
    rfl

end AssetMenu.Text
