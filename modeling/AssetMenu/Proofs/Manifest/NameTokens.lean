import AssetMenu.Proofs.Document.Sites
import AssetMenu.Proofs.Manifest.Acceptance

/-!
# Where the names of a manifest are written

Every name that has to be a type name comes from a token of the document: the value of the base type
of all assets, the key of a type, or the value of a type's base.  Only the base type that is taken
if none is given has no token, and it is a type name.
-/

namespace AssetMenu

open Document

namespace Decode

variable {α : Type} {record : Record α} {p : α → Prop} {node : Node}

/-- The values that a record's field is read from: the entry of a table that has its name, or the
item of an array that stands where the field does. -/
inductive FieldOf (record : Record α) (name : String) : Node → Node → Prop
  | entry {span : Span} {origin : Origin} {entries : List (Key × Node)} {key : Key} {value : Node} :
      (key, value) ∈ entries → key.text = name →
        FieldOf record name (.table span origin entries) value
  | item {node value : Node} {items : List Node} {index : Nat} :
      items? node = some items → items[index]? = some value →
        (record.fields[index]?).map (·.name) = some name → FieldOf record name node value

theorem items_sited {source : List Char} {items : List Node} (hnode : node.Sited source)
    (hitems : items? node = some items) : ∀ item ∈ items, item.Sited source := by
  unfold items? at hitems
  split at hitems
  next =>
    obtain rfl := Option.some.inj hitems
    cases hnode with
    | array hinner => exact hinner
  next =>
    obtain rfl := Option.some.inj hitems
    exact hnode.mem_tables
  next => simp at hitems

theorem FieldOf.sited {source : List Char} {name : String} {value : Node}
    (hfield : FieldOf record name node value) (hnode : node.Sited source) :
    value.Sited source := by
  cases hfield with
  | entry hentry _ => exact (Table.Sited.ofNode hnode).nested _ hentry
  | item hitems hitem _ => exact items_sited hnode hitems _ (List.mem_of_getElem? hitem)

namespace Record

theorem readEntries_keeps {span : Span} {entries : List (Key × Node)} {value : α}
    (hinitial : p record.initial)
    (hfields : ∀ field ∈ record.fields, ∀ entry ∈ entries, entry.1.text = field.name →
      ∀ before after, p before → field.read entry.2 before = .ok after → p after)
    (hread : record.readEntries span entries = .ok value) : p value := by
  obtain ⟨decoded, hdecoded, hmissing⟩ := bind_eq_ok_iff.mp hread
  have hkept : p decoded := by
    refine foldlM_keeps (fun entry hentry before after hbefore hstep => ?_) hinitial hdecoded
    rw [readEntry] at hstep
    split at hstep
    next field hfield =>
      have hname : field.name = entry.1.text := by
        simpa using List.find?_some hfield
      exact hfields field (List.mem_of_find?_eq_some hfield) entry hentry hname.symm before after
        hbefore hstep
    next => simp at hstep
  split at hmissing
  next => simp at hmissing
  next =>
    obtain rfl := Except.ok.inj hmissing
    exact hkept

theorem readItems_keeps {span : Span} {index : Nat} {fields : List (Field α)}
    {items : List Node} {initial value : α} (hinitial : p initial)
    (hfields : ∀ (i : Nat) (field : Field α) (item : Node), fields[i]? = some field →
      items[i]? = some item →
      ∀ before after, p before → field.read item before = .ok after → p after)
    (hread : record.readItems span index fields items initial = .ok value) : p value := by
  induction fields generalizing index items initial with
  | nil =>
      rw [readItems] at hread
      obtain rfl := Except.ok.inj hread
      exact hinitial
  | cons field fields ih =>
      cases items with
      | nil =>
          rw [readItems] at hread
          split at hread
          next => exact ih hinitial (fun i _ _ _ hitem => by simp at hitem) hread
          next => simp at hread
      | cons item items =>
          rw [readItems] at hread
          obtain ⟨next, hnext, hread⟩ := bind_eq_ok_iff.mp hread
          refine ih (hfields 0 field item rfl rfl initial next hinitial hnext) ?_ hread
          intro i inner child hinner hchild
          exact hfields (i + 1) inner child hinner hchild

/-- What holds of a record before any field is read, and is kept by every field that is read, holds
of what is read. -/
theorem read_keeps {value : α} (hnames : ∀ field ∈ record.fields, field.name ≠ dateTimeKey)
    (hinitial : p record.initial)
    (hfields : ∀ field ∈ record.fields, ∀ child, FieldOf record field.name node child →
      ∀ before after, p before → field.read child before = .ok after → p after)
    (hread : record.read node = .ok value) : p value := by
  rw [read] at hread
  split at hread
  next entries hentries =>
    refine readEntries_keeps hinitial (fun field hfield entry hentry hname => ?_) hread
    unfold entries? at hentries
    split at hentries
    next span origin inner =>
      obtain rfl := Option.some.inj hentries
      exact hfields field hfield entry.2 (.entry hentry hname)
    next =>
      -- the one entry of a date or time names no field
      obtain rfl := Option.some.inj hentries
      rw [List.mem_singleton.mp hentry] at hname
      exact absurd hname.symm (hnames field hfield)
    next => simp at hentries
  next items _ hitems =>
    refine readItems_keeps hinitial (fun i field item hfield hitem => ?_) hread
    have hname : (record.fields[i]?).map (·.name) = some field.name := by
      rw [hfield]
      rfl
    exact hfields field (List.mem_of_getElem? hfield) item (.item hitems hitem hname)
  next => exact absurd hread Manifest.refuse_ne_ok

end Record

theorem text_eq_ok {value : String} (hread : text node = .ok value) :
    ∃ span, node = .scalar span (.text value) := by
  unfold text at hread
  split at hread
  next span inner =>
    obtain rfl := Except.ok.inj hread
    exact ⟨span, rfl⟩
  next => exact absurd hread Manifest.refuse_ne_ok

/-- The base type of all assets is the one that is taken if none is given, or it is read from its
field. -/
theorem baseType_of_generator {settings : GeneratorSettings}
    (hread : generator.read node = .ok settings) :
    settings.baseType = defaultBaseType ∨
      ∃ span, FieldOf generator "base_type" node (.scalar span (.text settings.baseType)) := by
  let p (settings : GeneratorSettings) : Prop := settings.baseType = defaultBaseType ∨
    ∃ span, FieldOf generator "base_type" node (.scalar span (.text settings.baseType))
  refine Record.read_keeps (p := p) (by decide) (Or.inl rfl) ?_ hread
  intro field hfield child hchild before after hbefore hstep
  simp only [generator, List.mem_cons, List.not_mem_nil, or_false] at hfield
  rcases hfield with rfl | rfl | rfl | rfl | rfl | rfl
  case inr.inr.inr.inr.inl =>
    obtain ⟨name, htext, hafter⟩ := bind_eq_ok_iff.mp hstep
    obtain rfl := Except.ok.inj hafter
    obtain ⟨span, rfl⟩ := text_eq_ok htext
    exact Or.inr ⟨span, hchild⟩
  all_goals
    obtain ⟨_, -, hafter⟩ := bind_eq_ok_iff.mp hstep
    obtain rfl := Except.ok.inj hafter
    exact hbefore

/-- The base of a type is read from its field, and its place is that of the value. -/
theorem base_of_declaration {declared : TypeDeclaration} {reference : BaseReference}
    (hread : declaration.read node = .ok declared) (hbase : declared.base = some reference) :
    FieldOf declaration "extends" node (.scalar reference.span (.text reference.name)) := by
  let p (declared : TypeDeclaration) : Prop := ∀ reference, declared.base = some reference →
    FieldOf declaration "extends" node (.scalar reference.span (.text reference.name))
  have hinitial : p declaration.initial := fun reference hnone => by simp [declaration] at hnone
  refine Record.read_keeps (p := p) (by decide) hinitial ?_ hread reference hbase
  intro field hfield child hchild before after hbefore hstep
  simp only [declaration, List.mem_cons, List.not_mem_nil, or_false] at hfield
  rcases hfield with rfl | rfl | rfl | rfl | rfl | rfl
  case inr.inl =>
    obtain ⟨name, htext, hafter⟩ := bind_eq_ok_iff.mp hstep
    obtain rfl := Except.ok.inj hafter
    obtain ⟨span, rfl⟩ := text_eq_ok htext
    intro reference hreference
    obtain rfl := Option.some.inj hreference
    exact hchild
  all_goals
    obtain ⟨_, -, hafter⟩ := bind_eq_ok_iff.mp hstep
    obtain rfl := Except.ok.inj hafter
    exact hbefore

theorem declaration_read_text_ne_ok {span : Span} {value : String} {declared : TypeDeclaration} :
    declaration.read (.scalar span (.text value)) ≠ .ok declared :=
  Manifest.refuse_ne_ok

/-- Each declared type is read from an entry of the table of types. -/
theorem exists_entry_of_types {declared : List (String × TypeDeclaration)}
    (hread : types node = .ok declared) {name : String} {declaration : TypeDeclaration}
    (htype : (name, declaration) ∈ declared) :
    ∃ span origin entries key child, node = .table span origin entries ∧
      (key, child) ∈ entries ∧ key.text = name ∧
      Decode.declaration.read child = .ok declaration := by
  rw [types] at hread
  split at hread
  next entries hentries =>
    obtain ⟨⟨key, child⟩, hentry, hpair⟩ := exists_item_of_mapM_eq_ok hread _ htype
    obtain ⟨value, hchild, hvalue⟩ := bind_eq_ok_iff.mp hpair
    obtain ⟨rfl, rfl⟩ := Prod.mk.inj (Except.ok.inj hvalue)
    unfold entries? at hentries
    split at hentries
    next span origin inner =>
      obtain rfl := Option.some.inj hentries
      exact ⟨span, origin, inner, key, child, rfl, hentry, rfl, hchild⟩
    next =>
      -- the text of a date or time is no declaration
      obtain rfl := Option.some.inj hentries
      obtain ⟨rfl, rfl⟩ := Prod.mk.inj (List.mem_singleton.mp hentry)
      exact absurd hchild declaration_read_text_ne_ok
    next => simp at hentries
  next => exact absurd hread Manifest.refuse_ne_ok

/-- The settings and the types of a manifest are read from the entries of the document that have
their names. -/
theorem manifest_of_readEntries {span : Span} {entries : List (Key × Node)} {decoded : Manifest}
    (hread : manifest.readEntries span entries = .ok decoded) :
    (decoded.generator.baseType = defaultBaseType ∨
      ∃ entry ∈ entries, entry.1.text = "generator" ∧
        generator.read entry.2 = .ok decoded.generator) ∧
    (decoded.types = [] ∨
      ∃ entry ∈ entries, entry.1.text = "types" ∧ types entry.2 = .ok decoded.types) := by
  let p (decoded : Manifest) : Prop :=
    (decoded.generator.baseType = defaultBaseType ∨
      ∃ entry ∈ entries, entry.1.text = "generator" ∧
        generator.read entry.2 = .ok decoded.generator) ∧
    (decoded.types = [] ∨
      ∃ entry ∈ entries, entry.1.text = "types" ∧ types entry.2 = .ok decoded.types)
  refine Record.readEntries_keeps (p := p) ⟨Or.inl rfl, Or.inl rfl⟩ ?_ hread
  intro field hfield entry hentry hname before after hbefore hstep
  simp only [manifest, List.mem_cons, List.not_mem_nil, or_false] at hfield
  rcases hfield with rfl | rfl
  · obtain ⟨settings, hsettings, hafter⟩ := bind_eq_ok_iff.mp hstep
    obtain rfl := Except.ok.inj hafter
    exact ⟨Or.inr ⟨entry, hentry, hname, hsettings⟩, hbefore.2⟩
  · obtain ⟨declared, hdeclared, hafter⟩ := bind_eq_ok_iff.mp hstep
    obtain rfl := Except.ok.inj hafter
    exact ⟨hbefore.1, Or.inr ⟨entry, hentry, hname, hdeclared⟩⟩

end Decode

namespace Manifest

/-- The three kinds of places where a type name has to stand. -/
inductive NameKind where
  | baseType
  | typeName
  | base
  deriving DecidableEq

/-- A token of the document, at the span, holds the name of a place: the value of `base_type`, the
key of a type, or the value of a type's `extends`. -/
inductive NameToken (table : Table) : NameKind → NamePlace → Span → Prop
  | baseType {key : Key} {settings : Node} {name : String} {span : Span} :
      (key, settings) ∈ table.entries → key.text = "generator" →
        Decode.FieldOf Decode.generator "base_type" settings (.scalar span (.text name)) →
          NameToken table .baseType ⟨name, "base type in 'generator'"⟩ span
  | typeName {key typeKey : Key} {declared : Node} {span : Span} {origin : Origin}
      {entries : List (Key × Node)} :
      (key, .table span origin entries) ∈ table.entries → key.text = "types" →
        (typeKey, declared) ∈ entries →
          NameToken table .typeName (keyPlace typeKey.text) typeKey.span
  | base {key typeKey : Key} {declared : Node} {span : Span} {origin : Origin}
      {entries : List (Key × Node)} {reference : BaseReference} :
      (key, .table span origin entries) ∈ table.entries → key.text = "types" →
        (typeKey, declared) ∈ entries →
          Decode.FieldOf Decode.declaration "extends" declared
              (.scalar reference.span (.text reference.name)) →
            NameToken table .base (basePlace typeKey.text reference) reference.span

/-- The token at the span is a key or a text of the source, and reads back as the name. -/
def Spells (source : List Char) (kind : NameKind) (name : String) (token : Span) : Prop :=
  match kind with
  | .typeName => Key.Sited source ⟨name, token⟩
  | _ => Scalar.Sited source token (.text name)

variable {source : List Char} {table : Table} {manifest : Manifest} {kind : NameKind}
  {place : NamePlace} {token : Span}

theorem NameToken.spells (htoken : NameToken table kind place token)
    (htable : table.Sited source) : Spells source kind place.name token := by
  cases htoken with
  | baseType hentry _ hfield => exact (hfield.sited (htable.nested _ hentry)).ofScalar
  | typeName hentry _ hdeclared =>
      exact (Table.Sited.ofNode (htable.nested _ hentry)).keys _ hdeclared
  | base hentry _ hdeclared hfield =>
      have hnode := (Table.Sited.ofNode (htable.nested _ hentry)).nested _ hdeclared
      exact (hfield.sited hnode).ofScalar

theorem Spells.exists_marks {name : String} (hspells : Spells source kind name token) :
    ∃ written, token.Marks source written := by
  cases kind with
  | typeName => exact Key.Sited.exists_marks hspells
  | baseType => exact Scalar.Sited.exists_marks hspells
  | base => exact Scalar.Sited.exists_marks hspells

theorem exists_baseType_token (hmanifest : ofDocument table = .ok manifest)
    (hname : ¬ isTypeName manifest.generator.baseType) :
    ∃ token, NameToken table .baseType
      ⟨manifest.generator.baseType, "base type in 'generator'"⟩ token := by
  have hgiven : manifest.generator.baseType ≠ defaultBaseType := by
    intro hdefault
    rw [hdefault] at hname
    exact hname (by decide)
  obtain hdefault | ⟨⟨key, settings⟩, hentry, hkey, hread⟩ :=
    (Decode.manifest_of_readEntries hmanifest).1
  · exact absurd hdefault hgiven
  obtain hdefault | ⟨span, hfield⟩ := Decode.baseType_of_generator hread
  · exact absurd hdefault hgiven
  exact ⟨span, .baseType hentry hkey hfield⟩

theorem exists_type_entry (hmanifest : ofDocument table = .ok manifest) {name : String}
    {declaration : TypeDeclaration} (htype : (name, declaration) ∈ manifest.types) :
    ∃ key span origin entries typeKey declared, (key, .table span origin entries) ∈ table.entries ∧
      key.text = "types" ∧ (typeKey, declared) ∈ entries ∧ typeKey.text = name ∧
        Decode.declaration.read declared = .ok declaration := by
  obtain hnone | ⟨⟨key, node⟩, hentry, hkey, hread⟩ :=
    (Decode.manifest_of_readEntries hmanifest).2
  · simp [hnone] at htype
  obtain ⟨span, origin, entries, typeKey, declared, rfl, hdeclared, hname, hdeclaration⟩ :=
    Decode.exists_entry_of_types hread htype
  exact ⟨key, span, origin, entries, typeKey, declared, hentry, hkey, hdeclared, hname,
    hdeclaration⟩

theorem exists_typeName_token (hmanifest : ofDocument table = .ok manifest) {name : String}
    {declaration : TypeDeclaration} (htype : (name, declaration) ∈ manifest.types) :
    ∃ token, NameToken table .typeName (keyPlace name) token := by
  obtain ⟨key, span, origin, entries, typeKey, declared, hentry, hkey, hdeclared, rfl, -⟩ :=
    exists_type_entry hmanifest htype
  exact ⟨typeKey.span, .typeName hentry hkey hdeclared⟩

theorem base_token (hmanifest : ofDocument table = .ok manifest) {name : String}
    {declaration : TypeDeclaration} {reference : BaseReference}
    (htype : (name, declaration) ∈ manifest.types) (hbase : declaration.base = some reference) :
    NameToken table .base (basePlace name reference) reference.span := by
  obtain ⟨key, span, origin, entries, typeKey, declared, hentry, hkey, hdeclared, rfl, hread⟩ :=
    exists_type_entry hmanifest htype
  exact .base hentry hkey hdeclared (Decode.base_of_declaration hread hbase)

end Manifest

end AssetMenu
