import AssetMenu.Proofs.TypeName.Characters

/-!
# The grammar of type names

A type name is a segment, or a type name with a separator and one more segment behind it.  The
check cuts a text at all its separators and looks at every field.  The last field is what stands
behind the last separator, and the others are the fields of what stands before it, so the check can
be followed from the right, as the grammar goes.  Program text puts dots in place of the separators,
which leaves the segments as they are.
-/

namespace AssetMenu

open Text

namespace TypeName

variable {cs front back : List Char} {c : Char}

/-! ## Identifiers and segments -/

/-- A letter or an underscore, and any number of letters, numbers and underscores behind it. -/
inductive Identifier : List Char → Prop
  | mk {first : Char} {rest : List Char} : isLetter first = true ∨ first = '_' →
      (∀ c ∈ rest, isAlphanumeric c = true ∨ c = '_') → Identifier (first :: rest)

/-- An identifier, and perhaps one mark with at least one digit behind it. -/
inductive Segment : List Char → Prop
  | plain {identifier : List Char} : Identifier identifier → Segment identifier
  | generic {identifier digits : List Char} : Identifier identifier → digits ≠ [] →
      (∀ c ∈ digits, c.isDigit = true) → Segment (identifier ++ arityMark :: digits)

theorem isIdentifier_iff : isIdentifier cs = true ↔ Identifier cs := by
  constructor
  · intro hcs
    cases cs with
    | nil => contradiction
    | cons first rest =>
        simp only [isIdentifier, isIdentifierStart, isIdentifierPart, Bool.and_eq_true,
          Bool.or_eq_true, beq_iff_eq, List.all_eq_true] at hcs
        exact .mk hcs.1 hcs.2
  · rintro ⟨hfirst, hrest⟩
    simpa only [isIdentifier, isIdentifierStart, isIdentifierPart, Bool.and_eq_true,
      Bool.or_eq_true, beq_iff_eq, List.all_eq_true] using And.intro hfirst hrest

theorem arityMark_not_mem_identifier (hcs : Identifier cs) : arityMark ∉ cs := by
  intro hmark
  have hpart := isIdentifierPart_of_mem_identifier (isIdentifier_iff.mpr hcs) hmark
  exact absurd hpart (by decide +kernel)

/-- The first mark of a segment is where its identifier ends. -/
theorem isSegment_append (hfront : arityMark ∉ front) (hback : ∀ c ∈ back.head?, c = arityMark) :
    isSegment (front ++ back) = (isIdentifier front && isArity back) := by
  have hkept : ∀ c ∈ front, (c != arityMark) = true := by
    intro c hc
    exact bne_iff_ne.mpr fun hmark => hfront (hmark ▸ hc)
  rw [isSegment, List.takeWhile_append_of_pos hkept, List.dropWhile_append_of_pos hkept]
  cases back with
  | nil => rw [List.takeWhile_nil, List.dropWhile_nil, List.append_nil]
  | cons mark digits =>
      obtain rfl := hback mark rfl
      rw [List.takeWhile_cons_of_neg (by simp), List.dropWhile_cons_of_neg (by simp),
        List.append_nil]

theorem isArity_cons_iff {digits : List Char} :
    isArity (c :: digits) = true ↔ digits ≠ [] ∧ ∀ d ∈ digits, d.isDigit = true := by
  simp [isArity]

theorem isSegment_iff : isSegment cs = true ↔ Segment cs := by
  constructor
  · intro hcs
    obtain ⟨hidentifier, harity⟩ := Bool.and_eq_true_iff.mp hcs
    rw [isIdentifier_iff] at hidentifier
    have hmark := List.head?_dropWhile_not (· != arityMark) cs
    rw [← List.takeWhile_append_dropWhile (p := (· != arityMark)) (l := cs)]
    cases hbehind : cs.dropWhile (· != arityMark) with
    | nil =>
        rw [List.append_nil]
        exact .plain hidentifier
    | cons mark digits =>
        rw [hbehind] at harity hmark
        obtain rfl : mark = arityMark := by simpa using hmark
        obtain ⟨hne, hdigits⟩ := isArity_cons_iff.mp harity
        exact .generic hidentifier hne hdigits
  · intro hcs
    cases hcs with
    | plain hidentifier =>
        rw [← List.append_nil cs, isSegment_append (arityMark_not_mem_identifier hidentifier)
          (by simp), isIdentifier_iff.mpr hidentifier]
        rfl
    | generic hidentifier hne hdigits =>
        rw [isSegment_append (arityMark_not_mem_identifier hidentifier) (by simp),
          isIdentifier_iff.mpr hidentifier, isArity_cons_iff.mpr ⟨hne, hdigits⟩]
        rfl

/-! ## Names -/

theorem isSeparator_iff : isSeparator c = true ↔ c = '.' ∨ c = '+' := by
  simp [isSeparator]

theorem isSeparator_eq_false (hcs : isSegment cs = true) : ∀ c ∈ cs, isSeparator c = false := by
  intro c hc
  rw [Bool.eq_false_iff]
  intro hseparator
  have hmem := mem_of_isSegment hcs hc
  rcases isSeparator_iff.mp hseparator with rfl | rfl
  · exact absurd hmem (by decide +kernel)
  · exact absurd hmem (by decide +kernel)

/-- A segment, or a name with a dot or a plus sign and one more segment behind it. -/
inductive Qualified : List Char → Prop
  | segment {segment : List Char} : Segment segment → Qualified segment
  | qualify {qualifier segment : List Char} {separator : Char} : Qualified qualifier →
      separator = '.' ∨ separator = '+' → Segment segment →
        Qualified (qualifier ++ separator :: segment)

theorem segments_eq_singleton (hcs : ∀ c ∈ cs, isSeparator c = false) : segments cs = [cs] :=
  fields_eq_singleton hcs

/-- What stands behind the last separator is the last of the segments. -/
theorem segments_append (hc : isSeparator c = true) (hback : ∀ d ∈ back, isSeparator d = false) :
    segments (front ++ c :: back) = segments front ++ [back] := by
  rw [segments, fields_append hc, ← segments, ← segments, segments_eq_singleton hback]

theorem isQualified_of_unparted (hcs : ∀ c ∈ cs, isSeparator c = false) :
    isQualified cs = isSegment cs := by
  simp [isQualified, segments_eq_singleton hcs]

theorem isQualified_append (hc : isSeparator c = true)
    (hback : ∀ d ∈ back, isSeparator d = false) :
    isQualified (front ++ c :: back) = (isQualified front && isSegment back) := by
  simp [isQualified, segments_append hc hback]

theorem qualified_of_isQualified (hcs : isQualified cs = true) : Qualified cs := by
  -- The grammar adds segments on the right, so the name is taken apart at its last separator.
  induction cs using inductionOnLastCut isSeparator with
  | uncut cs hunparted =>
      rw [isQualified_of_unparted hunparted] at hcs
      exact .segment (isSegment_iff.mp hcs)
  | append front c back hc hback ih =>
      rw [isQualified_append hc hback, Bool.and_eq_true] at hcs
      exact .qualify (ih hcs.1) (isSeparator_iff.mp hc) (isSegment_iff.mp hcs.2)

theorem isQualified_of_qualified (hcs : Qualified cs) : isQualified cs = true := by
  induction hcs with
  | segment hsegment =>
      have hsegment := isSegment_iff.mpr hsegment
      rwa [isQualified_of_unparted (isSeparator_eq_false hsegment)]
  | qualify _ hseparator hsegment ih =>
      have hsegment := isSegment_iff.mpr hsegment
      rw [isQualified_append (isSeparator_iff.mpr hseparator) (isSeparator_eq_false hsegment), ih,
        hsegment]
      rfl

theorem isQualified_iff : isQualified cs = true ↔ Qualified cs :=
  ⟨qualified_of_isQualified, isQualified_of_qualified⟩

/-! ## The last segment -/

theorem lastSegment_of_unparted (hcs : ∀ c ∈ cs, isSeparator c = false) : lastSegment cs = cs := by
  simp [lastSegment, segments_eq_singleton hcs]

theorem lastSegment_append (hc : isSeparator c = true)
    (hback : ∀ d ∈ back, isSeparator d = false) : lastSegment (front ++ c :: back) = back := by
  simp [lastSegment, segments_append hc hback]

/-- The last segment of a name, and what stands before it. -/
theorem Qualified.eq_or_exists_append (hcs : Qualified cs) :
    Segment (lastSegment cs) ∧ (cs = lastSegment cs ∨ ∃ qualifier separator,
      Qualified qualifier ∧ (separator = '.' ∨ separator = '+') ∧
        cs = qualifier ++ separator :: lastSegment cs) := by
  cases hcs with
  | segment hsegment =>
      have hunparted := isSeparator_eq_false (isSegment_iff.mpr hsegment)
      rw [lastSegment_of_unparted hunparted]
      exact ⟨hsegment, Or.inl rfl⟩
  | qualify hqualifier hseparator hsegment =>
      have hunparted := isSeparator_eq_false (isSegment_iff.mpr hsegment)
      rw [lastSegment_append (isSeparator_iff.mpr hseparator) hunparted]
      exact ⟨hsegment, Or.inr ⟨_, _, hqualifier, hseparator, rfl⟩⟩

/-! ## Dots in place of the separators -/

theorem dotted_eq_self (hplus : '+' ∉ cs) : dotted cs = cs := by
  refine (List.map_congr_left ?_).trans (List.map_id cs)
  intro c hc
  have hne : c ≠ '+' := fun hsame => hplus (hsame ▸ hc)
  simp [hne]

theorem dotted_dotted (cs : List Char) : dotted (dotted cs) = dotted cs :=
  dotted_eq_self (plus_not_mem_dotted cs)

theorem segments_dotted (cs : List Char) : segments (dotted cs) = segments cs := by
  rw [← fields_dotted cs, segments]
  apply fields_congr
  intro c hc
  have hplus : c ≠ '+' := fun hsame => plus_not_mem_dotted cs (hsame ▸ hc)
  simp [isSeparator, hplus]

theorem isQualified_dotted (cs : List Char) : isQualified (dotted cs) = isQualified cs := by
  rw [isQualified, segments_dotted, isQualified]

theorem lastSegment_dotted (cs : List Char) : lastSegment (dotted cs) = lastSegment cs := by
  rw [lastSegment, segments_dotted, lastSegment]

end TypeName

variable {name : String}

@[simp]
theorem toList_simpleName (name : String) :
    (simpleName name).toList = TypeName.lastSegment name.toList :=
  String.toList_ofList

@[simp]
theorem toList_sourceName (name : String) :
    (sourceName name).toList = TypeName.dotted name.toList :=
  String.toList_ofList

theorem isTypeName_sourceName (name : String) :
    isTypeName (sourceName name) = isTypeName name := by
  rw [isTypeName, toList_sourceName, TypeName.isQualified_dotted, isTypeName]

theorem simpleName_sourceName (name : String) : simpleName (sourceName name) = simpleName name := by
  rw [simpleName, toList_sourceName, TypeName.lastSegment_dotted, simpleName]

theorem sourceName_sourceName (name : String) : sourceName (sourceName name) = sourceName name := by
  rw [sourceName, toList_sourceName, TypeName.dotted_dotted, sourceName]

theorem isTypeSegment_simpleName (hname : isTypeName name = true) :
    isTypeSegment (simpleName name) = true := by
  have hsegment := (TypeName.isQualified_iff.mp hname).eq_or_exists_append.1
  rwa [isTypeSegment, toList_simpleName, TypeName.isSegment_iff]

/-- A type name without its last segment is a type name with a separator behind it. -/
theorem eq_simpleName_or_exists_qualifier (hname : isTypeName name = true) :
    name = simpleName name ∨ ∃ qualifier separator, isTypeName qualifier = true ∧
      (separator = "." ∨ separator = "+") ∧ name = qualifier ++ separator ++ simpleName name := by
  have hsplit := (TypeName.isQualified_iff.mp hname).eq_or_exists_append.2
  rcases hsplit with hwhole | ⟨qualifier, separator, hqualifier, hseparator, hsplit⟩
  · exact Or.inl (String.toList_injective (by rw [toList_simpleName, ← hwhole]))
  · refine Or.inr ⟨String.ofList qualifier, String.ofList [separator], ?_, ?_, ?_⟩
    · rwa [isTypeName, String.toList_ofList, TypeName.isQualified_iff]
    · rcases hseparator with rfl | rfl
      · exact Or.inl rfl
      · exact Or.inr rfl
    · apply String.toList_injective
      simpa using hsplit

/-- The check of type names accepts exactly what the grammar generates.  A type name ends in a
segment that has no separator, behind nothing or behind a type name and one separator.  With dots in
place of the separators it is a type name with the same last segment. -/
theorem isTypeName_follows_grammar :
    (∀ text : String, isTypeName text = true ↔ TypeName.Qualified text.toList) ∧
    ∀ name : String, isTypeName name = true →
      isTypeSegment (simpleName name) = true ∧
      TypeName.Segment (simpleName name).toList ∧
      (∀ c ∈ (simpleName name).toList, c ≠ '.' ∧ c ≠ '+') ∧
      (name = simpleName name ∨ ∃ qualifier separator, isTypeName qualifier = true ∧
        (separator = "." ∨ separator = "+") ∧ name = qualifier ++ separator ++ simpleName name) ∧
      isTypeName (sourceName name) = true ∧
      '+' ∉ (sourceName name).toList ∧
      simpleName (sourceName name) = simpleName name ∧
      sourceName (sourceName name) = sourceName name := by
  constructor
  case left => exact fun text => TypeName.isQualified_iff
  case right =>
    intro name hname
    have hsegment := isTypeSegment_simpleName hname
    refine ⟨hsegment, TypeName.isSegment_iff.mp hsegment, ?_,
      eq_simpleName_or_exists_qualifier hname, ?_, ?_, simpleName_sourceName name,
      sourceName_sourceName name⟩
    · intro c hc
      have hunparted := TypeName.isSeparator_eq_false hsegment c hc
      rwa [Bool.eq_false_iff, ne_eq, TypeName.isSeparator_iff, not_or] at hunparted
    · rwa [isTypeName_sourceName]
    · rw [toList_sourceName]
      exact TypeName.plus_not_mem_dotted _

/-- A generic type inside another type, below a namespace with a letter beyond ASCII. -/
theorem isTypeName_nestedBox :
    isTypeName "Épée.Outer+Box\x602" = true ∧ simpleName "Épée.Outer+Box\x602" = "Box\x602" ∧
      sourceName "Épée.Outer+Box\x602" = "Épée.Outer.Box\x602" ∧
      TypeName.Segment "Box\x602".toList ∧
      (∃ qualifier separator, isTypeName qualifier = true ∧
        (separator = "." ∨ separator = "+") ∧
        "Épée.Outer+Box\x602" = qualifier ++ separator ++ "Box\x602") ∧
      isTypeName "Épée.Outer.Box\x602" = true := by
  have hname : isTypeName "Épée.Outer+Box\x602" = true := by decide +kernel
  have hsimple : simpleName "Épée.Outer+Box\x602" = "Box\x602" := by decide +kernel
  have hsource : sourceName "Épée.Outer+Box\x602" = "Épée.Outer.Box\x602" := by decide +kernel
  obtain ⟨-, hsegment, -, hsplit, hdotted, -⟩ := isTypeName_follows_grammar.2 _ hname
  rw [hsimple] at hsegment hsplit
  rw [hsource] at hdotted
  exact ⟨hname, hsimple, hsource, hsegment, hsplit.resolve_left (by decide), hdotted⟩

end AssetMenu
