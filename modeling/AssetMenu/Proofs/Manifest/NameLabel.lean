import AssetMenu.Proofs.Manifest.Faults
import AssetMenu.Proofs.Manifest.NameTokens
import AssetMenu.Proofs.Text.Search

/-!
# The label of a name

The base that a type names carries its place, and a fault points at it.  Every other name is
searched for in the source, as a text between quotes.  The search knows nothing of tokens: it takes
the first occurrence in its own order, be it the name's, another value's, or a part of a comment.
-/

namespace AssetMenu

open Text Document

namespace Label

variable {source name : List Char} {span other : Span}

/-- What stands right before a name and right behind it. -/
structure Enclosure where
  opening : List Char
  closing : List Char

/-- The name stands at the place, within the enclosure. -/
def Enclosure.Holds (enclosure : Enclosure) (source name : List Char) (span : Span) : Prop :=
  ∃ front, Occurs (enclosure.opening ++ name ++ enclosure.closing) source front ∧
    span = Span.ofLength (byteCount (front ++ enclosure.opening)) (byteCount name)

/-- The enclosures that a name is searched in, in their order. -/
def enclosures : List Enclosure :=
  [⟨"types.\"".toList, ['"']⟩, ⟨"types.'".toList, ['\'']⟩, ⟨['"'], ['"']⟩, ⟨['\''], ['\'']⟩]

/-- The name stands at the place between quotes of one kind. -/
def Quoted (source name : List Char) (span : Span) : Prop :=
  Enclosure.Holds ⟨['"'], ['"']⟩ source name span ∨
    Enclosure.Holds ⟨['\''], ['\'']⟩ source name span

/-- The place is the first one of the name: that in the first enclosure that the name stands in at
all, and there the leftmost. -/
def FirstQuoted (source name : List Char) (span : Span) : Prop :=
  ∃ before enclosure after, enclosures = before ++ enclosure :: after ∧
    enclosure.Holds source name span ∧
    (∀ other, enclosure.Holds source name other → span.start ≤ other.start) ∧
    ∀ earlier ∈ before, ∀ other, ¬ earlier.Holds source name other

variable {enclosure : Enclosure}

theorem Enclosure.Holds.marks (hholds : enclosure.Holds source name span) :
    span.Marks source name := by
  obtain ⟨front, ⟨rest, hsource⟩, rfl⟩ := hholds
  exact ⟨front ++ enclosure.opening, enclosure.closing ++ rest, by simp [hsource], rfl⟩

theorem between?_eq_none_iff :
    between? source enclosure.opening name enclosure.closing = none ↔
      ∀ span, ¬ enclosure.Holds source name span := by
  rw [between?, position?, Option.map_map, Option.map_eq_none_iff, before?_eq_none_iff]
  exact ⟨fun hnone _ ⟨front, hoccurs, _⟩ => hnone front hoccurs,
    fun hnone front hoccurs => hnone _ ⟨front, hoccurs, rfl⟩⟩

theorem Enclosure.Holds.eq_of_start (hholds : enclosure.Holds source name span)
    (hother : enclosure.Holds source name other) (hstart : span.start = other.start) :
    span = other := by
  obtain ⟨front, -, rfl⟩ := hholds
  obtain ⟨front', -, rfl⟩ := hother
  simp only [Span.ofLength] at hstart ⊢
  rw [hstart]

theorem between?_eq_some
    (hfound : between? source enclosure.opening name enclosure.closing = some span) :
    enclosure.Holds source name span ∧
      ∀ other, enclosure.Holds source name other → span.start ≤ other.start := by
  rw [between?, position?, Option.map_map, Option.map_eq_some_iff] at hfound
  obtain ⟨front, hfront, rfl⟩ := hfound
  have hleftmost := leftmost_of_before? hfront
  refine ⟨⟨front, hleftmost.occurs, by simp⟩, ?_⟩
  rintro _ ⟨front', hoccurs, rfl⟩
  obtain ⟨rest, rfl⟩ := hleftmost.isPrefix front' hoccurs
  simp only [Function.comp_apply, Span.ofLength, byteCount_append]
  omega

theorem between?_eq_some_iff :
    between? source enclosure.opening name enclosure.closing = some span ↔
      enclosure.Holds source name span ∧
        ∀ other, enclosure.Holds source name other → span.start ≤ other.start := by
  refine ⟨between?_eq_some, fun ⟨hholds, hleftmost⟩ => ?_⟩
  cases hfound : between? source enclosure.opening name enclosure.closing with
  | none => exact absurd hholds (between?_eq_none_iff.mp hfound span)
  | some found =>
      obtain ⟨hfound, hfirst⟩ := between?_eq_some hfound
      have hstart := Nat.le_antisymm (hfirst span hholds) (hleftmost found hfound)
      rw [hfound.eq_of_start hholds hstart]

theorem ofName?_eq_findSome? :
    ofName? source name = enclosures.findSome? fun enclosure =>
      between? source enclosure.opening name enclosure.closing := by
  have hcons : ∀ (first : Enclosure) (rest : List Enclosure) (search : Enclosure → Option Span),
      (first :: rest).findSome? search = (search first <|> rest.findSome? search) := by
    intro first rest search
    rw [List.findSome?_cons]
    cases search first <;> rfl
  simp [ofName?, enclosures, hcons]

theorem quoted_of_holds (henclosure : enclosure ∈ enclosures)
    (hholds : enclosure.Holds source name span) : Quoted source name span := by
  obtain ⟨front, ⟨rest, hsource⟩, rfl⟩ := hholds
  simp only [enclosures, List.mem_cons, List.not_mem_nil, or_false] at henclosure
  rcases henclosure with rfl | rfl | rfl | rfl
  · exact Or.inl ⟨front ++ "types.".toList, ⟨rest, by simpa using hsource⟩, by simp⟩
  · exact Or.inr ⟨front ++ "types.".toList, ⟨rest, by simpa using hsource⟩, by simp⟩
  · exact Or.inl ⟨front, ⟨rest, hsource⟩, rfl⟩
  · exact Or.inr ⟨front, ⟨rest, hsource⟩, rfl⟩

theorem ofName?_eq_none_iff : ofName? source name = none ↔ ∀ span, ¬ Quoted source name span := by
  rw [ofName?_eq_findSome?, List.findSome?_eq_none_iff]
  simp only [between?_eq_none_iff]
  constructor
  · rintro hnone span (hdouble | hsingle)
    · exact hnone _ (by simp [enclosures]) span hdouble
    · exact hnone _ (by simp [enclosures]) span hsingle
  · intro hnone enclosure henclosure span hholds
    exact hnone span (quoted_of_holds henclosure hholds)

theorem ofName?_eq_some_iff : ofName? source name = some span ↔ FirstQuoted source name span := by
  rw [ofName?_eq_findSome?, List.findSome?_eq_some_iff]
  simp only [between?_eq_some_iff, between?_eq_none_iff, FirstQuoted, and_assoc]

theorem FirstQuoted.quoted (hfirst : FirstQuoted source name span) : Quoted source name span := by
  obtain ⟨before, enclosure, after, hsplit, hholds, -⟩ := hfirst
  exact quoted_of_holds (by simp [hsplit]) hholds

theorem Quoted.marks (hquoted : Quoted source name span) : span.Marks source name := by
  rcases hquoted with hdouble | hsingle
  · exact hdouble.marks
  · exact hsingle.marks

/-- A name that is written plainly in a token stands between quotes there. -/
theorem quoted_of_marks {quote : Char} {token : Span} (hquote : quote = '"' ∨ quote = '\'')
    (htoken : token.Marks source (quote :: (name ++ [quote]))) :
    Quoted source name (Span.ofLength (token.start + 1) (byteCount name)) := by
  obtain ⟨front, rest, hsource, rfl⟩ := htoken
  rcases hquote with rfl | rfl
  · exact Or.inl ⟨front, ⟨rest, by simpa using hsource⟩, by rw [byteCount_append]; rfl⟩
  · exact Or.inr ⟨front, ⟨rest, by simpa using hsource⟩, by rw [byteCount_append]; rfl⟩

/-- The name is found in the token: where it stands in the first enclosure that it stands in at all,
it stands in the token, and nowhere outside of the token further left. -/
def FoundWithin (source name : List Char) (token : Span) : Prop :=
  ∃ before enclosure after, enclosures = before ++ enclosure :: after ∧
    (∀ earlier ∈ before, ∀ other, ¬ earlier.Holds source name other) ∧
    ∃ span, enclosure.Holds source name span ∧ span.Within token ∧
      ∀ other, enclosure.Holds source name other → ¬ other.Within token → span.start ≤ other.start

theorem exists_ofName?_within_iff {token : Span} :
    (∃ span, ofName? source name = some span ∧ span.Within token) ↔
      FoundWithin source name token := by
  constructor
  · rintro ⟨span, hfound, hwithin⟩
    obtain ⟨before, enclosure, after, hsplit, hholds, hleftmost, hbefore⟩ :=
      ofName?_eq_some_iff.mp hfound
    exact ⟨before, enclosure, after, hsplit, hbefore, span, hholds, hwithin,
      fun other hother _ => hleftmost other hother⟩
  · rintro ⟨before, enclosure, after, hsplit, hbefore, span, hholds, hwithin, houtside⟩
    cases hfound : between? source enclosure.opening name enclosure.closing with
    | none => exact absurd hholds (between?_eq_none_iff.mp hfound span)
    | some found =>
        obtain ⟨hother, hleftmost⟩ := between?_eq_some hfound
        refine ⟨found, ofName?_eq_some_iff.mpr ⟨before, enclosure, after, hsplit, hother,
          hleftmost, hbefore⟩, ?_⟩
        by_contra hout
        have hstart := Nat.le_antisymm (houtside found hother hout) (hleftmost span hholds)
        rw [hholds.eq_of_start hother hstart] at hwithin
        exact hout hwithin

end Label

namespace Manifest

variable {source file name context : String} {label : Option Span}

/-- A fault about a name concerns a token of the document, and points at it if it holds the base of
a type.  Else the name is searched for in the source. -/
theorem exists_token_of_refuses (hrefuses : Refuses source (.invalidTypeName name context label)) :
    ¬ isTypeName name ∧ ∃ table kind token, Document.ofSource? source.toList = some table ∧
      NameToken table kind ⟨name, context⟩ token ∧
      label = if kind = .base then some token else Label.ofName? source.toList name.toList := by
  cases hrefuses with
  | violates hdocument hmanifest hviolates =>
      cases hviolates with
      | baseType hname =>
          obtain ⟨token, htoken⟩ := exists_baseType_token hmanifest hname
          exact ⟨hname, _, _, token, hdocument, htoken, rfl⟩
      | typeName hentry hname =>
          obtain ⟨token, htoken⟩ := exists_typeName_token hmanifest hentry
          exact ⟨hname, _, _, token, hdocument, htoken, rfl⟩
      | base hentry hbase hname =>
          exact ⟨hname, _, _, _, hdocument, base_token hmanifest hentry hbase, rfl⟩

/-- A fault about a name concerns the token that holds the name, a part of the source that reads
back as the name.  It points at this token if the name is a type's base.  Otherwise it points at the first place in the source where the name stands
between quotes, and nowhere if there is none.  This place is in the token exactly if the name is
found there, as it is if the token shows the name between quotes and no other place does. -/
theorem ofSource_invalidTypeName_label {source file name context : String} {label : Option Span}
    (hread : ofSource source file =
      .error (.refused file (.invalidTypeName name context label))) :
    ¬ isTypeName name ∧ ∃ table kind token,
      Document.ofSource? source.toList = some table ∧
      NameToken table kind ⟨name, context⟩ token ∧
      Spells source.toList kind name token ∧
      (∃ written, token.Marks source.toList written) ∧
      (kind = .base → label = some token) ∧
      (kind ≠ .base →
        (∀ span, label = some span ↔ Label.FirstQuoted source.toList name.toList span) ∧
        (∀ span, label = some span → span.Marks source.toList name.toList) ∧
        (label = none ↔ ∀ span, ¬ Label.Quoted source.toList name.toList span) ∧
        ((∃ span, label = some span ∧ span.Within token) ↔
          Label.FoundWithin source.toList name.toList token) ∧
        ((∀ span, Label.Quoted source.toList name.toList span → span.Within token) →
          ∀ quote, quote = '"' ∨ quote = '\'' →
            token.Marks source.toList (quote :: (name.toList ++ [quote])) →
              ∃ span, label = some span ∧ span.Within token)) := by
  obtain ⟨fault, hfault, hrefuses⟩ := refuses_of_ofSource hread
  obtain ⟨-, rfl⟩ := ManifestError.refused.inj hfault
  obtain ⟨hname, table, kind, token, hdocument, htoken, hlabel⟩ := exists_token_of_refuses hrefuses
  have hspells : Spells source.toList kind name token :=
    htoken.spells (Document.sited_of_ofSource? hdocument)
  refine ⟨hname, table, kind, token, hdocument, htoken, hspells, hspells.exists_marks,
    fun hbase => by rw [hlabel, if_pos hbase], fun hbase => ?_⟩
  rw [if_neg hbase] at hlabel
  subst hlabel
  have hquoted : ∀ span, Label.ofName? source.toList name.toList = some span →
      Label.Quoted source.toList name.toList span :=
    fun span hspan => (Label.ofName?_eq_some_iff.mp hspan).quoted
  refine ⟨fun span => Label.ofName?_eq_some_iff, fun span hspan => (hquoted span hspan).marks,
    Label.ofName?_eq_none_iff, Label.exists_ofName?_within_iff,
    fun hwithin quote hquote hmarks => ?_⟩
  cases hfound : Label.ofName? source.toList name.toList with
  | none =>
      exact absurd (Label.quoted_of_marks hquote hmarks) (Label.ofName?_eq_none_iff.mp hfound _)
  | some span => exact ⟨span, rfl, hwithin span (hquoted span hfound)⟩

/-- A type whose name is no type name. -/
def misnamedSource : String :=
  "[generator]\noutput = \"M\"\n[types.\"9é\"]\n"

theorem ofSource_misnamedSource :
    ofSource misnamedSource fileName =
        .error (.refused fileName (.invalidTypeName "9é" "type name in 'types'" (some ⟨33, 36⟩))) ∧
      Label.FirstQuoted misnamedSource.toList "9é".toList ⟨33, 36⟩ ∧
      ∃ table kind token, Document.ofSource? misnamedSource.toList = some table ∧
        NameToken table kind ⟨"9é", "type name in 'types'"⟩ token ∧
        Spells misnamedSource.toList kind "9é" token := by
  have hread : ofSource misnamedSource fileName = .error (.refused fileName
      (.invalidTypeName "9é" "type name in 'types'" (some ⟨33, 36⟩))) := by
    decide +kernel
  have hfound : Label.ofName? misnamedSource.toList "9é".toList = some ⟨33, 36⟩ := by
    decide +kernel
  obtain ⟨-, table, kind, token, hdocument, htoken, hspells, -⟩ :=
    ofSource_invalidTypeName_label hread
  exact ⟨hread, Label.ofName?_eq_some_iff.mp hfound, table, kind, token, hdocument, htoken,
    hspells⟩

/-- A base type that is no type name, below an affix of the same text. -/
def misledSource : String :=
  "[generator]\noutput = \"M\"\nprefix = \"9\"\nbase_type = \"9\"\n"

/-- The document in `misledSource`. -/
def misledTable : Table :=
  ⟨⟨0, 0⟩, .header, [(⟨"generator", ⟨1, 10⟩⟩, .table ⟨0, 11⟩ .header
    [(⟨"output", ⟨12, 18⟩⟩, .scalar ⟨21, 24⟩ (.text "M")),
      (⟨"prefix", ⟨25, 31⟩⟩, .scalar ⟨34, 37⟩ (.text "9")),
      (⟨"base_type", ⟨38, 47⟩⟩, .scalar ⟨50, 53⟩ (.text "9"))])]⟩

theorem ofSource?_misledSource : Document.ofSource? misledSource.toList = some misledTable := rfl

theorem eq_of_token_misledTable {name context : String} {token : Span}
    (htoken : NameToken misledTable .baseType ⟨name, context⟩ token) : token = ⟨50, 53⟩ := by
  cases htoken with
  | baseType hentry _ hfield =>
      obtain ⟨-, rfl⟩ := Prod.mk.inj (List.mem_singleton.mp hentry)
      cases hfield with
      | entry hvalue hkey =>
          simp only [List.mem_cons, List.not_mem_nil, or_false, Prod.mk.injEq] at hvalue
          rcases hvalue with ⟨rfl, -⟩ | ⟨rfl, -⟩ | ⟨-, hvalue⟩
          · simp at hkey
          · simp at hkey
          · exact (Node.scalar.inj hvalue).1
      | item hitems => simp [Decode.items?] at hitems

/-- The label is put into the affix, outside of every token of the base type. -/
theorem ofSource_misledSource :
    ofSource misledSource fileName =
        .error (.refused fileName
          (.invalidTypeName "9" "base type in 'generator'" (some ⟨35, 36⟩))) ∧
      ∃ table, Document.ofSource? misledSource.toList = some table ∧
        (∃ token, NameToken table .baseType ⟨"9", "base type in 'generator'"⟩ token) ∧
        ∀ token, NameToken table .baseType ⟨"9", "base type in 'generator'"⟩ token →
          ¬ Span.Within ⟨35, 36⟩ token := by
  refine ⟨by decide +kernel, misledTable, ofSource?_misledSource, ⟨⟨50, 53⟩, ?_⟩, ?_⟩
  · exact .baseType List.mem_cons_self rfl (.entry (List.mem_of_getElem? (i := 2) rfl) rfl)
  · intro token htoken
    obtain rfl := eq_of_token_misledTable htoken
    simp [Span.Within]

end Manifest

end AssetMenu
