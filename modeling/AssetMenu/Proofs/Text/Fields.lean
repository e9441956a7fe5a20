import AssetMenu.Text.Fields

/-!
# What the fields of a text hold

The fields of a text hold its characters, apart from those that it is cut at.  So a
text that is cut at more characters has the same fields exactly if none of the others
comes up in it.
-/

namespace AssetMenu.Text

variable {cut finer : Char → Bool} {c : Char}

/-- A character that is not cut at stands at the beginning of the first field. -/
theorem fields_cons_of_not_cut (hcut : cut c = false) (cs : List Char) :
    ∃ field rest, fields cut cs = field :: rest ∧ fields cut (c :: cs) = (c :: field) :: rest := by
  cases hfields : fields cut cs with
  | nil => exact absurd hfields (fields_ne_nil cut cs)
  | cons field rest => exact ⟨field, rest, rfl, by simp [fields, hcut, hfields]⟩

theorem exists_mem_fields_iff {cs : List Char} :
    (∃ field ∈ fields cut cs, c ∈ field) ↔ c ∈ cs ∧ cut c = false := by
  induction cs with
  | nil => simp [fields]
  | cons first cs ih =>
      rw [List.mem_cons, or_and_right, ← ih]
      cases hcut : cut first with
      | true =>
          have hfirst : ¬ (c = first ∧ cut c = false) := by
            rintro ⟨rfl, hfalse⟩
            exact Bool.false_ne_true (hfalse.symm.trans hcut)
          simp [fields, hcut, hfirst]
      | false =>
          have hfirst : c = first ∧ cut c = false ↔ c = first := by
            rw [and_iff_left_iff_imp]
            rintro rfl
            exact hcut
          obtain ⟨field, rest, hfields, hcons⟩ := fields_cons_of_not_cut hcut cs
          rw [hcons, hfields, hfirst]
          simp [or_assoc]

/-- A text without cuts is its only field. -/
theorem fields_eq_singleton {cs : List Char} (hcs : ∀ c ∈ cs, cut c = false) :
    fields cut cs = [cs] := by
  induction cs with
  | nil => rfl
  | cons first cs ih =>
      obtain ⟨hfirst, hrest⟩ := List.forall_mem_cons.mp hcs
      simp [fields, hfirst, ih hrest]

/-- A cut between two texts cuts the whole into what each is cut into. -/
theorem fields_append (hcut : cut c = true) (front back : List Char) :
    fields cut (front ++ c :: back) = fields cut front ++ fields cut back := by
  induction front with
  | nil => simp [fields, hcut]
  | cons first front ih =>
      rw [List.cons_append]
      cases hfirst : cut first with
      | true => simp [fields, hfirst, ih]
      | false =>
          obtain ⟨field, rest, hfields, hcons⟩ := fields_cons_of_not_cut hfirst front
          rw [hcons, fields, hfirst, ih, hfields]
          rfl

/-- Up to the first cut there is one field. -/
theorem fields_append_cut {field : List Char} (hfield : ∀ c ∈ field, cut c = false)
    (hcut : cut c = true) (rest : List Char) :
    fields cut (field ++ c :: rest) = field :: fields cut rest := by
  rw [fields_append hcut, fields_eq_singleton hfield, List.singleton_append]

/-- A text that is cut at all has a last cut. -/
theorem exists_last_cut {cs : List Char} (hcs : ∃ c ∈ cs, cut c = true) :
    ∃ front c back, cs = front ++ c :: back ∧ cut c = true ∧ ∀ d ∈ back, cut d = false := by
  induction cs with
  | nil => simp at hcs
  | cons first cs ih =>
      by_cases hlater : ∃ c ∈ cs, cut c = true
      · obtain ⟨front, c, back, rfl, hcut, hback⟩ := ih hlater
        exact ⟨first :: front, c, back, rfl, hcut, hback⟩
      · have huncut : ∀ d ∈ cs, cut d = false := by simpa using hlater
        refine ⟨[], first, cs, rfl, ?_, huncut⟩
        obtain ⟨c, hc, hcut⟩ := hcs
        rcases List.mem_cons.mp hc with rfl | hmem
        · exact hcut
        · exact absurd ⟨c, hmem, hcut⟩ hlater

/-- A text has no cut, or it is a text with a cut and an uncut text behind it. -/
theorem inductionOnLastCut (cut : Char → Bool) {p : List Char → Prop}
    (uncut : ∀ cs, (∀ c ∈ cs, cut c = false) → p cs)
    (append : ∀ front c back, cut c = true → (∀ d ∈ back, cut d = false) → p front →
      p (front ++ c :: back)) (cs : List Char) : p cs := by
  induction hlength : cs.length using Nat.strongRecOn generalizing cs with
  | _ length ih =>
      by_cases hcs : ∃ c ∈ cs, cut c = true
      · obtain ⟨front, c, back, rfl, hcut, hback⟩ := exists_last_cut hcs
        refine append front c back hcut hback (ih front.length ?_ front rfl)
        simp only [List.length_append, List.length_cons] at hlength
        omega
      · exact uncut cs (by simpa using hcs)

/-- The fields depend on the cuts that are made only. -/
theorem fields_congr {cs : List Char} (hcuts : ∀ c ∈ cs, finer c = cut c) :
    fields finer cs = fields cut cs := by
  induction cs with
  | nil => rfl
  | cons first cs ih =>
      obtain ⟨hfirst, hrest⟩ := List.forall_mem_cons.mp hcuts
      rw [fields, fields, hfirst, ih hrest]

/-- A text that is rewritten character by character has the rewritten fields, if a character is cut
at exactly if what becomes of it is. -/
theorem fields_map {rewrite : Char → Char} (hcut : ∀ c, cut (rewrite c) = finer c)
    (cs : List Char) : fields cut (cs.map rewrite) = (fields finer cs).map (List.map rewrite) := by
  induction cs with
  | nil => rfl
  | cons first cs ih =>
      rw [List.map_cons]
      cases hfirst : finer first with
      | true => simp [fields, hcut, hfirst, ih]
      | false =>
          obtain ⟨field, rest, hfields, hcons⟩ := fields_cons_of_not_cut hfirst cs
          rw [hcons, fields, hcut, hfirst, ih, hfields]
          rfl

/-- More characters to cut at make no difference exactly if none of them comes up. -/
theorem fields_eq_iff (hfiner : ∀ c, cut c = true → finer c = true) (cs : List Char) :
    fields finer cs = fields cut cs ↔ ∀ c ∈ cs, finer c = true → cut c = true := by
  constructor
  · intro hsame c hc hfine
    cases hkept : cut c with
    | true => rfl
    | false =>
        have hfield := exists_mem_fields_iff.mpr ⟨hc, hkept⟩
        rw [← hsame, exists_mem_fields_iff] at hfield
        exact absurd (hfield.2.symm.trans hfine) Bool.false_ne_true
  · intro hnone
    exact fields_congr fun c hc => Bool.eq_iff_iff.mpr ⟨hnone c hc, hfiner c⟩

end AssetMenu.Text
