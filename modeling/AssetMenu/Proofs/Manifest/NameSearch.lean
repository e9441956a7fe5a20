import AssetMenu.Proofs.Manifest.NameLabel

/-!
# The mention that a search finds

A source mentions a name where the name stands between two quotes of one kind.  Of all mentions a
search finds the first, in an order of its own: a mention behind `types.` comes before any other,
among these and among the others double quotes come before single ones, and among equals the place
decides.  So the search fails only if the source does not mention the name, and the bytes at the
place that it finds are those of the name.
-/

namespace AssetMenu

open Text Document

namespace Label

/-- The quotes that a name may stand between. -/
inductive Quote
  | double
  | single
  deriving DecidableEq

/-- The character of a quote. -/
def Quote.mark : Quote → Char
  | .double => '"'
  | .single => '\''

theorem Quote.utf8Size_mark (quote : Quote) : quote.mark.utf8Size = 1 := by
  cases quote <;> rfl

theorem Quote.eq_single {quote : Quote} (hquote : quote ≠ .double) : quote = .single := by
  cases quote with
  | double => contradiction
  | single => rfl

/-- A name between two quotes, with the text before the first of them. -/
structure Mention where
  front : List Char
  quote : Quote

namespace Mention

variable {source name : List Char} {mention other : Mention} {span : Span}

/-- The source mentions the name there. -/
def StandsIn (mention : Mention) (source name : List Char) : Prop :=
  Occurs (mention.quote.mark :: (name ++ [mention.quote.mark])) source mention.front

/-- The place of the name, without the quotes. -/
def place (mention : Mention) (name : List Char) : Span :=
  Span.ofLength (byteCount mention.front + 1) (byteCount name)

/-- The mention stands directly behind `types.`, as the name in the header of a type does. -/
def BehindTypes (mention : Mention) : Prop :=
  "types.".toList <:+ mention.front

/-- The order in which mentions are preferred. -/
inductive Precedes (mention other : Mention) : Prop
  | behindTypes : mention.BehindTypes → ¬ other.BehindTypes → Precedes mention other
  | quote : (mention.BehindTypes ↔ other.BehindTypes) → mention.quote = .double →
      other.quote = .single → Precedes mention other
  | front : (mention.BehindTypes ↔ other.BehindTypes) → mention.quote = other.quote →
      byteCount mention.front < byteCount other.front → Precedes mention other

theorem Precedes.asymm (hprecedes : mention.Precedes other) : ¬ other.Precedes mention := by
  intro hother
  cases hprecedes with
  | behindTypes hbehind hnot =>
      cases hother with
      | behindTypes hother => exact hnot hother
      | quote hsame => exact hnot (hsame.mpr hbehind)
      | front hsame => exact hnot (hsame.mpr hbehind)
  | quote hsame hdouble hsingle =>
      cases hother with
      | behindTypes hother hnot => exact hnot (hsame.mpr hother)
      | quote _ hdouble' => simp [hsingle] at hdouble'
      | front _ hquote => simp [hdouble, hsingle] at hquote
  | front hsame hquote hless =>
      cases hother with
      | behindTypes hother hnot => exact hnot (hsame.mpr hother)
      | quote _ hdouble hsingle => simp [hdouble, hsingle] at hquote
      | front _ _ hless' => exact Nat.lt_asymm hless hless'

/-- The mention is preferred to all others. -/
structure IsFirst (mention : Mention) (source name : List Char) : Prop where
  standsIn : mention.StandsIn source name
  precedes : ∀ other : Mention, other.StandsIn source name → other ≠ mention →
    mention.Precedes other

theorem IsFirst.unique (hmention : mention.IsFirst source name)
    (hother : other.IsFirst source name) : mention = other := by
  by_contra hne
  have hprecedes := hmention.precedes other hother.standsIn (Ne.symm hne)
  exact hprecedes.asymm (hother.precedes mention hmention.standsIn hne)

theorem StandsIn.marks (hstands : mention.StandsIn source name) :
    (mention.place name).Marks source name := by
  obtain ⟨rest, hsource⟩ := hstands
  refine ⟨mention.front ++ [mention.quote.mark], mention.quote.mark :: rest, by simp [hsource], ?_⟩
  simp [place, Quote.utf8Size_mark]

theorem StandsIn.eq_of_byteCount (hstands : mention.StandsIn source name)
    (hother : other.StandsIn source name) (hquote : mention.quote = other.quote)
    (hbytes : byteCount mention.front = byteCount other.front) : mention = other := by
  obtain ⟨front, quote⟩ := mention
  obtain ⟨front', quote'⟩ := other
  obtain ⟨rest, hsource⟩ := hstands
  obtain ⟨rest', hsource'⟩ := hother
  obtain ⟨rfl, -⟩ := append_inj_of_byteCount (hsource.symm.trans hsource') hbytes
  obtain rfl : quote = quote' := hquote
  rfl

/-- A mention is preferred to all others if there is no other that is better placed, or has better
quotes in the same place, or comes earlier with the same quotes. -/
theorem StandsIn.isFirst (hstands : mention.StandsIn source name)
    (hbehind : mention.BehindTypes ∨ ∀ other : Mention, other.StandsIn source name →
      ¬ other.BehindTypes)
    (hquote : mention.quote = .double ∨ ∀ other : Mention, other.StandsIn source name →
      (mention.BehindTypes ↔ other.BehindTypes) → other.quote ≠ .double)
    (hfront : ∀ other : Mention, other.StandsIn source name →
      (mention.BehindTypes ↔ other.BehindTypes) → mention.quote = other.quote →
        other ≠ mention → byteCount mention.front < byteCount other.front) :
    mention.IsFirst source name := by
  refine ⟨hstands, fun other hother hne => ?_⟩
  by_cases hsame : mention.BehindTypes ↔ other.BehindTypes
  · by_cases hmarks : mention.quote = other.quote
    · exact .front hsame hmarks (hfront other hother hsame hmarks hne)
    · have hsingle : other.quote = .single := by
        apply Quote.eq_single
        intro hdouble
        rcases hquote with hmention | hworse
        · exact hmarks (hmention.trans hdouble.symm)
        · exact hworse other hother hsame hdouble
      have hdouble : mention.quote = .double := by
        by_contra hmention
        exact hmarks ((Quote.eq_single hmention).trans hsingle.symm)
      exact .quote hsame hdouble hsingle
  · by_cases hmention : mention.BehindTypes
    · exact .behindTypes hmention fun hbehind' => hsame (iff_of_true hmention hbehind')
    · have hnot := hbehind.resolve_left hmention other hother
      exact absurd (iff_of_false hmention hnot) hsame

end Mention

/-! ## One search -/

section Search

variable {source name lead : List Char} {quote : Quote} {span : Span}

/-- What stands between quotes behind `lead` is a mention whose front ends with `lead`. -/
theorem holds_iff_exists_mention :
    Enclosure.Holds ⟨lead ++ [quote.mark], [quote.mark]⟩ source name span ↔
      ∃ mention : Mention, mention.StandsIn source name ∧ mention.quote = quote ∧
        lead <:+ mention.front ∧ mention.place name = span := by
  constructor
  · rintro ⟨front, ⟨rest, hsource⟩, rfl⟩
    refine ⟨⟨front ++ lead, quote⟩, ⟨rest, by simpa using hsource⟩, rfl, ⟨front, rfl⟩, ?_⟩
    simp [Mention.place, Quote.utf8Size_mark, Nat.add_assoc]
  · rintro ⟨⟨_, quote⟩, ⟨rest, hsource⟩, rfl, ⟨front, rfl⟩, rfl⟩
    refine ⟨front, ⟨rest, by simpa using hsource⟩, ?_⟩
    simp [Mention.place, Quote.utf8Size_mark, Nat.add_assoc]

theorem search_eq_none_iff :
    between? source (lead ++ [quote.mark]) name [quote.mark] = none ↔
      ∀ mention : Mention, mention.StandsIn source name → mention.quote = quote →
        ¬ lead <:+ mention.front := by
  have hnone := @between?_eq_none_iff source name ⟨lead ++ [quote.mark], [quote.mark]⟩
  simp only [holds_iff_exists_mention] at hnone
  rw [hnone]
  constructor
  · intro hspans mention hstands hquote hlead
    exact hspans _ ⟨mention, hstands, hquote, hlead, rfl⟩
  · rintro hmentions span ⟨mention, hstands, hquote, hlead, -⟩
    exact hmentions mention hstands hquote hlead

theorem exists_mention_of_search
    (hfound : between? source (lead ++ [quote.mark]) name [quote.mark] = some span) :
    ∃ mention : Mention, mention.StandsIn source name ∧ mention.quote = quote ∧
      lead <:+ mention.front ∧ mention.place name = span ∧
      ∀ other : Mention, other.StandsIn source name → other.quote = quote →
        lead <:+ other.front → other ≠ mention →
          byteCount mention.front < byteCount other.front := by
  obtain ⟨hholds, hleftmost⟩ :=
    @between?_eq_some source name span ⟨lead ++ [quote.mark], [quote.mark]⟩ hfound
  simp only [holds_iff_exists_mention] at hholds hleftmost
  obtain ⟨mention, hstands, hquote, hlead, rfl⟩ := hholds
  refine ⟨mention, hstands, hquote, hlead, rfl, fun other hother hquote' hlead' hne => ?_⟩
  have hstart := hleftmost _ ⟨other, hother, hquote', hlead', rfl⟩
  have hbytes : byteCount mention.front ≠ byteCount other.front := by
    intro hbytes
    exact hne (hstands.eq_of_byteCount hother (hquote.trans hquote'.symm) hbytes).symm
  simp only [Mention.place, Span.ofLength] at hstart
  omega

end Search

/-! ## The four searches -/

section FirstMention

variable {source name : List Char} {span : Span}

theorem ofName?_eq_searches :
    ofName? source name =
      let search (lead : List Char) (quote : Quote) : Option Span :=
        between? source (lead ++ [quote.mark]) name [quote.mark]
      (search "types.".toList .double <|> search "types.".toList .single <|>
        search [] .double <|> search [] .single) := rfl

theorem exists_isFirst_of_ofName? (hfound : ofName? source name = some span) :
    ∃ mention : Mention, mention.IsFirst source name ∧ mention.place name = span := by
  rw [ofName?_eq_searches] at hfound
  simp only [Option.orElse_eq_orElse, Option.orElse_eq_or, Option.or_eq_some_iff,
    search_eq_none_iff] at hfound
  rcases hfound with hfound | ⟨hnoDouble, hfound | ⟨hnoSingle, hfound⟩⟩
  case inl =>
    obtain ⟨mention, hstands, hquote, hbehind, hplace, hfirst⟩ := exists_mention_of_search hfound
    refine ⟨mention, hstands.isFirst (.inl hbehind) (.inl hquote) ?_, hplace⟩
    intro other hother hsame hquote'
    exact hfirst other hother (hquote'.symm.trans hquote) (hsame.mp hbehind)
  case inr.inl =>
    obtain ⟨mention, hstands, hquote, hbehind, hplace, hfirst⟩ := exists_mention_of_search hfound
    refine ⟨mention, hstands.isFirst (.inl hbehind) (.inr ?_) ?_, hplace⟩
    · intro other hother hsame hdouble
      exact hnoDouble other hother hdouble (hsame.mp hbehind)
    · intro other hother hsame hquote'
      exact hfirst other hother (hquote'.symm.trans hquote) (hsame.mp hbehind)
  case inr.inr =>
    -- The searches without `types.` find any mention, but none with it is left for them.
    have hnone : ∀ other : Mention, other.StandsIn source name → ¬ other.BehindTypes := by
      intro other hother
      cases hquote : other.quote with
      | double => exact hnoDouble other hother hquote
      | single => exact hnoSingle other hother hquote
    rcases hfound with hfound | ⟨hnoDouble, hfound⟩
    case inl =>
      obtain ⟨mention, hstands, hquote, -, hplace, hfirst⟩ := exists_mention_of_search hfound
      refine ⟨mention, hstands.isFirst (.inr hnone) (.inl hquote) ?_, hplace⟩
      intro other hother _ hquote'
      exact hfirst other hother (hquote'.symm.trans hquote) List.nil_suffix
    case inr =>
      obtain ⟨mention, hstands, hquote, -, hplace, hfirst⟩ := exists_mention_of_search hfound
      refine ⟨mention, hstands.isFirst (.inr hnone) (.inr ?_) ?_, hplace⟩
      · intro other hother _ hdouble
        exact hnoDouble other hother hdouble List.nil_suffix
      · intro other hother _ hquote'
        exact hfirst other hother (hquote'.symm.trans hquote) List.nil_suffix

theorem exists_ofName?_iff :
    (∃ span, ofName? source name = some span) ↔
      ∃ mention : Mention, mention.StandsIn source name := by
  constructor
  · rintro ⟨span, hfound⟩
    obtain ⟨mention, hfirst, -⟩ := exists_isFirst_of_ofName? hfound
    exact ⟨mention, hfirst.standsIn⟩
  · rintro ⟨mention, hstands⟩
    by_contra hnone
    rw [← Option.isSome_iff_exists, Option.not_isSome_iff_eq_none, ofName?_eq_searches] at hnone
    simp only [Option.orElse_eq_orElse, Option.orElse_eq_or, Option.or_eq_none_iff,
      search_eq_none_iff] at hnone
    obtain ⟨-, -, hnoDouble, hnoSingle⟩ := hnone
    cases hquote : mention.quote with
    | double => exact hnoDouble mention hstands hquote List.nil_suffix
    | single => exact hnoSingle mention hstands hquote List.nil_suffix

theorem ofName?_eq_some_iff_isFirst :
    ofName? source name = some span ↔
      ∃ mention : Mention, mention.IsFirst source name ∧ mention.place name = span := by
  refine ⟨exists_isFirst_of_ofName?, ?_⟩
  rintro ⟨mention, hfirst, rfl⟩
  obtain ⟨span, hfound⟩ := exists_ofName?_iff.mpr ⟨mention, hfirst.standsIn⟩
  obtain ⟨other, hother, rfl⟩ := exists_isFirst_of_ofName? hfound
  rw [hfound, hother.unique hfirst]

end FirstMention

/-- A search finds a place exactly if the source mentions the name, and this is the place of the
mention that is preferred to all others.  The bytes there are those of the name, and they are whole
characters of the source. -/
theorem search_finds_first_mention (source name : String) :
    ((∃ span, ofName? source.toList name.toList = some span) ↔
      ∃ mention : Mention, mention.StandsIn source.toList name.toList) ∧
    (∀ span, ofName? source.toList name.toList = some span ↔
      ∃ mention : Mention, mention.IsFirst source.toList name.toList ∧
        mention.place name.toList = span) ∧
    ∀ span, ofName? source.toList name.toList = some span →
      source.toByteArray.extract span.start span.stop = name.toByteArray ∧
        String.Pos.Raw.IsValid source ⟨span.start⟩ ∧ String.Pos.Raw.IsValid source ⟨span.stop⟩ := by
  refine ⟨exists_ofName?_iff, fun span => ofName?_eq_some_iff_isFirst, fun span hfound => ?_⟩
  obtain ⟨mention, hfirst, rfl⟩ := exists_isFirst_of_ofName? hfound
  exact hfirst.standsIn.marks.extract_eq

/-- A source that mentions a name in each of the four ways, the better ones behind the others. -/
def remindingSource : String :=
  "# 'é' \"é\" types.'é'\n[types.\"é\"] # types.\"é\"\n"

theorem search_remindingSource :
    ofName? remindingSource.toList "é".toList = some ⟨31, 33⟩ ∧
      remindingSource.toByteArray.extract 31 33 = "é".toByteArray ∧
      ∃ mention : Mention, mention.IsFirst remindingSource.toList "é".toList ∧
        mention.place "é".toList = ⟨31, 33⟩ := by
  have hfound : ofName? remindingSource.toList "é".toList = some ⟨31, 33⟩ := by decide +kernel
  obtain ⟨-, hplace, hbytes⟩ := search_finds_first_mention remindingSource "é"
  exact ⟨hfound, (hbytes _ hfound).1, (hplace _).mp hfound⟩

end Label

end AssetMenu
