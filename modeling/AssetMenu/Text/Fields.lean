/-!
# Splitting a text

A text is cut at the characters that satisfy a predicate, or at line ends.  The
fields of a text are what stands between the cuts: there is always one more
field than there are cuts, and a field may be empty.
-/

namespace AssetMenu.Text

/-- What stands between the characters of `cs` that satisfy `cut`. -/
def fields (cut : Char → Bool) : List Char → List (List Char)
  | [] => [[]]
  | c :: cs =>
      if cut c then [] :: fields cut cs
      else match fields cut cs with
        | [] => [[c]]
        | field :: rest => (c :: field) :: rest

theorem fields_ne_nil (cut : Char → Bool) (cs : List Char) : fields cut cs ≠ [] := by
  cases cs with
  | nil => simp [fields]
  | cons c cs =>
      simp only [fields]
      split
      · simp
      · split <;> simp

/-- The carriage return of a line end that is written as two characters belongs
to the line end. -/
def dropReturn (line : List Char) : List Char :=
  if line.getLast? = some '\r' then line.dropLast else line

/-- The lines of a text without their line ends.  A line feed at the very end
opens no further line, and a carriage return counts as part of a line end only
directly before a line feed. -/
def lines (cs : List Char) : List (List Char) :=
  let all := fields (· == '\n') cs
  let last := all.getLast?.getD []
  all.dropLast.map dropReturn ++ (if last.isEmpty then [] else [last])

end AssetMenu.Text
