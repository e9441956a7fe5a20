import AssetMenu.Document.Span
import AssetMenu.Text.Bytes

/-!
# The text at a place

A place marks the text between its first byte and its last one.  A place that does not begin and
end between two characters, or that reaches behind the end of the source, marks no text at all.
-/

namespace AssetMenu

open Text

/-- The text before a position is determined by the number of its bytes. -/
theorem Text.append_inj_of_byteCount {left right left' right' : List Char}
    (hsame : left ++ right = left' ++ right') (hbytes : byteCount left = byteCount left') :
    left = left' ∧ right = right' := by
  induction left generalizing left' with
  | nil =>
      cases left' with
      | nil => exact ⟨rfl, hsame⟩
      | cons c left' =>
          have hpositive := c.utf8Size_pos
          simp only [byteCount_nil, byteCount_cons] at hbytes
          omega
  | cons c left ih =>
      cases left' with
      | nil =>
          have hpositive := c.utf8Size_pos
          simp only [byteCount_nil, byteCount_cons] at hbytes
          omega
      | cons c' left' =>
          obtain ⟨rfl, htail⟩ := List.cons_eq_cons.mp hsame
          obtain ⟨rfl, rfl⟩ := ih htail (Nat.add_left_cancel hbytes)
          exact ⟨rfl, rfl⟩

theorem Text.byteCount_toList (text : String) : byteCount text.toList = text.utf8ByteSize := by
  have hofList : ∀ cs : List Char, byteCount cs = (String.ofList cs).utf8ByteSize := by
    intro cs
    induction cs with
    | nil => rfl
    | cons c cs ih =>
        rw [byteCount_cons, ih, ← List.singleton_append, String.ofList_append,
          String.utf8ByteSize_append, ← String.singleton_eq_ofList, String.utf8ByteSize_singleton]
  rw [hofList, String.ofList_toList]

namespace Document

variable {span : Span} {source text other : List Char}

/-- `text` stands at the place. -/
def Span.Marks (span : Span) (source text : List Char) : Prop :=
  ∃ front rest, source = front ++ (text ++ rest) ∧
    span = Span.ofLength (byteCount front) (byteCount text)

theorem Span.Marks.eq (htext : span.Marks source text) (hother : span.Marks source other) :
    text = other := by
  obtain ⟨front, rest, rfl, rfl⟩ := htext
  obtain ⟨front', rest', hsource, hspan⟩ := hother
  simp only [Span.ofLength, Span.mk.injEq] at hspan
  obtain ⟨rfl, hbehind⟩ := append_inj_of_byteCount hsource hspan.1
  exact (append_inj_of_byteCount hbehind (by omega)).1

theorem Span.Marks.stop_le (htext : span.Marks source text) : span.stop ≤ byteCount source := by
  obtain ⟨front, rest, rfl, rfl⟩ := htext
  simp only [Span.ofLength, byteCount_append]
  omega

/-- The bytes at the place are those of the text, and they are the bytes of whole characters. -/
theorem Span.Marks.extract_eq {source text : String}
    (htext : span.Marks source.toList text.toList) :
    source.toByteArray.extract span.start span.stop = text.toByteArray ∧
      String.Pos.Raw.IsValid source ⟨span.start⟩ ∧ String.Pos.Raw.IsValid source ⟨span.stop⟩ := by
  obtain ⟨front, rest, hsource, rfl⟩ := htext
  have hfront : byteCount front = (String.ofList front).utf8ByteSize := by
    rw [← byteCount_toList, String.toList_ofList]
  obtain rfl : source = String.ofList front ++ (text ++ String.ofList rest) := by
    apply String.toList_injective
    simpa using hsource
  simp only [Span.ofLength, hfront, byteCount_toList]
  refine ⟨?_, ?_, ?_⟩
  · rw [String.toByteArray_append, String.toByteArray_append, ← String.size_toByteArray,
      ← String.size_toByteArray, ← Nat.add_zero (String.ofList front).toByteArray.size,
      Nat.add_assoc, ByteArray.extract_append_size_add, Nat.zero_add,
      ByteArray.extract_append_eq_left rfl]
  · exact String.Pos.Raw.isValid_iff_exists_append.mpr ⟨_, _, rfl, rfl⟩
  · refine String.Pos.Raw.isValid_iff_exists_append.mpr
      ⟨String.ofList front ++ text, String.ofList rest, String.append_assoc.symm, ?_⟩
    rw [String.Pos.Raw.ext_iff, String.byteIdx_rawEndPos, String.utf8ByteSize_append]

/-- The first place lies in the second one. -/
def Span.Within (inner outer : Span) : Prop :=
  outer.start ≤ inner.start ∧ inner.stop ≤ outer.stop

end Document

end AssetMenu
