import AssetMenu.Manifest.Read
import AssetMenu.Proofs.Document.Reading
import AssetMenu.Proofs.Manifest.Checks
import AssetMenu.Proofs.Registry.Ancestors

/-!
# Which manifests are accepted

A document that has the structure of a manifest is accepted if its output path is
not empty, all its names are type names, and no type leads back to itself.  The
fault that is reported is the first one, where names are looked at in the order
in which they stand in the document, and cycles are looked for last.
-/

namespace AssetMenu.Manifest

/-! ## No type is declared twice -/

theorem refuse_ne_ok {α : Type} {expected : Expectation} {node : Document.Node} {value : α} :
    Decode.refuse expected node ≠ .ok value := by
  intro hok
  obtain ⟨_, -, hvalue⟩ := bind_eq_ok_iff.mp hok
  simp at hvalue

theorem nodup_keys_of_entries? {node : Document.Node}
    {entries : List (Document.Key × Document.Node)} (hnode : node.DistinctKeys)
    (hentries : Decode.entries? node = some entries) : (entries.map (·.1.text)).Nodup := by
  unfold Decode.entries? at hentries
  split at hentries
  · obtain rfl := Option.some.inj hentries
    exact (Document.Table.DistinctKeys.ofNode hnode).nodup
  · obtain rfl := Option.some.inj hentries
    exact List.nodup_singleton _
  · simp at hentries

theorem nodup_names_of_types {node : Document.Node}
    {declared : List (String × TypeDeclaration)} (hnode : node.DistinctKeys)
    (hread : Decode.types node = .ok declared) : (declared.map Prod.fst).Nodup := by
  rw [Decode.types] at hread
  split at hread
  next entries hentries =>
    have hnames : declared.map Prod.fst = entries.map (·.1.text) := by
      refine map_eq_of_mapM_eq_ok (fun entry value hvalue => ?_) hread
      obtain ⟨_, -, hpair⟩ := bind_eq_ok_iff.mp hvalue
      obtain rfl := Except.ok.inj hpair
      rfl
    rw [hnames]
    exact nodup_keys_of_entries? hnode hentries
  next => exact absurd hread refuse_ne_ok

/-- The declared types of a document have distinct names, since the keys of a
table are distinct. -/
theorem nodup_names_of_ofDocument {table : Document.Table} {manifest : Manifest}
    (htable : table.DistinctKeys) (hread : ofDocument table = .ok manifest) :
    (manifest.types.map Prod.fst).Nodup := by
  obtain ⟨decoded, hdecoded, hmissing⟩ := bind_eq_ok_iff.mp hread
  have hnodup : (decoded.types.map Prod.fst).Nodup := by
    refine foldlM_keeps (p := fun m => (m.types.map Prod.fst).Nodup) ?_ ?_ hdecoded
    · intro entry hentry before after hbefore hstep
      rw [Decode.Record.readEntry] at hstep
      split at hstep
      next field hfield =>
        have hmem := List.mem_of_find?_eq_some hfield
        simp only [Decode.manifest, List.mem_cons, List.not_mem_nil, or_false] at hmem
        rcases hmem with rfl | rfl
        · obtain ⟨_, -, hafter⟩ := bind_eq_ok_iff.mp hstep
          obtain rfl := Except.ok.inj hafter
          exact hbefore
        · obtain ⟨_, htypes, hafter⟩ := bind_eq_ok_iff.mp hstep
          obtain rfl := Except.ok.inj hafter
          exact nodup_names_of_types (htable.nested entry hentry) htypes
      next => simp at hstep
    · exact List.nodup_nil
  split at hmissing
  · simp at hmissing
  · obtain rfl := Except.ok.inj hmissing
    exact hnodup

/-! ## The names of a manifest -/

/-- A name where a type name has to stand, and how a fault calls that place. -/
structure NamePlace where
  name : String
  context : String

/-- The place of a type's own name. -/
def keyPlace (name : String) : NamePlace :=
  ⟨name, "type name in 'types'"⟩

/-- The place of the base that a type names. -/
def basePlace (name : String) (reference : BaseReference) : NamePlace :=
  ⟨reference.name, "base type in 'types." ++ name ++ "'"⟩

/-- The names of a manifest in the order in which they are looked at: the base
type of all assets, then for each type its own name and that of its base. -/
def namePlaces (manifest : Manifest) : List NamePlace :=
  ⟨manifest.generator.baseType, "base type in 'generator'"⟩ ::
    manifest.types.flatMap fun entry =>
      keyPlace entry.1 :: (entry.2.base.map (basePlace entry.1)).toList

/-- The first place whose name is no type name. -/
def firstIllNamed? (places : List NamePlace) : Option NamePlace :=
  places.find? fun place => !isTypeName place.name

/-- A check passes if all places are well named, and else reports the first that
is not. -/
def ReportsFirst (places : List NamePlace) (check : Except ManifestFault Unit) : Prop :=
  match firstIllNamed? places with
  | none => check = .ok ()
  | some place => ∃ label, check = .error (.invalidTypeName place.name place.context label)

theorem reportsFirst_nil : ReportsFirst [] (.ok ()) := rfl

theorem ReportsFirst.append {left right : List NamePlace}
    {first second : Except ManifestFault Unit} (hfirst : ReportsFirst left first)
    (hsecond : ReportsFirst right second) :
    ReportsFirst (left ++ right) (first >>= fun _ => second) := by
  rw [ReportsFirst, firstIllNamed?] at hfirst
  rw [ReportsFirst, firstIllNamed?, List.find?_append]
  cases hleft : left.find? (fun place => !isTypeName place.name) with
  | none =>
      rw [hleft] at hfirst
      rw [hfirst]
      exact hsecond
  | some place =>
      rw [hleft] at hfirst
      obtain ⟨label, hfault⟩ := hfirst
      exact ⟨label, by rw [hfault]; rfl⟩

theorem reportsFirst_checkTypeName (context : Context) (name kind : String)
    (span : Option Document.Span) :
    ReportsFirst [⟨name, context.describe kind⟩] (context.checkTypeName name kind span) := by
  by_cases hname : isTypeName name
  · simp [ReportsFirst, firstIllNamed?, Context.checkTypeName, hname]
  · simp [ReportsFirst, firstIllNamed?, Context.checkTypeName, hname]

theorem describe_keyPlace (source name : String) :
    ((Context.ofSource source).push "types").describe "type name" = (keyPlace name).context := by
  simp [keyPlace, Context.describe, Context.push, Context.ofSource, Context.path]

theorem describe_basePlace (source name : String) (reference : BaseReference) :
    (((Context.ofSource source).push "types").push name).describe "base type" =
      (basePlace name reference).context := by
  have hpath : (((Context.ofSource source).push "types").push name).path = "types." ++ name := by
    simp [Context.path, Context.push, Context.ofSource]
  rw [basePlace, Context.describe, if_neg (by simp [Context.push]), hpath]
  simp only [← String.append_assoc]
  rfl

theorem reportsFirst_checkDeclaration (source : String) (entry : String × TypeDeclaration) :
    ReportsFirst (keyPlace entry.1 :: (entry.2.base.map (basePlace entry.1)).toList)
      (checkDeclaration ((Context.ofSource source).push "types") entry) := by
  obtain ⟨name, declaration⟩ := entry
  have hkey : ReportsFirst [keyPlace name] _ :=
    describe_keyPlace source name ▸ reportsFirst_checkTypeName
      ((Context.ofSource source).push "types") name "type name" none
  apply hkey.append
  cases hbase : declaration.base with
  | none => exact reportsFirst_nil
  | some reference =>
      have hplace := reportsFirst_checkTypeName
        (((Context.ofSource source).push "types").push name) reference.name "base type"
        (some reference.span)
      rwa [describe_basePlace source name reference] at hplace

theorem reportsFirst_checkDeclarations (source : String)
    (types : List (String × TypeDeclaration)) :
    ReportsFirst
      (types.flatMap fun entry =>
        keyPlace entry.1 :: (entry.2.base.map (basePlace entry.1)).toList)
      (types.forM (checkDeclaration ((Context.ofSource source).push "types"))) := by
  induction types with
  | nil => exact reportsFirst_nil
  | cons entry rest ih =>
      rw [List.flatMap_cons]
      exact (reportsFirst_checkDeclaration source entry).append ih

/-! ## Cycles -/

/-- No type leads back to itself. -/
def Acyclic (manifest : Manifest) : Prop :=
  ∀ name, ¬ Relation.TransGen manifest.Extends name name

theorem acyclic_iff_forall_types {manifest : Manifest}
    (hnames : (manifest.types.map Prod.fst).Nodup) :
    manifest.Acyclic ↔
      ∀ entry ∈ manifest.types, manifest.cycleThrough? entry.1 = none := by
  simp only [Acyclic, extends_eq_hasBase hnames, cycleThrough?_eq_none_iff]
  constructor
  · intro hacyclic entry _
    exact hacyclic entry.1
  · intro htypes name hcycle
    obtain ⟨base, hbase, -⟩ := Relation.TransGen.head'_iff.mp hcycle
    obtain ⟨entry, hentry, rfl⟩ := List.mem_map.mp (mem_names_of_hasBase hbase)
    exact htypes entry hentry hcycle

theorem checkCycle_eq_ok_iff {manifest : Manifest} {entry : String × TypeDeclaration} :
    manifest.checkCycle entry = .ok () ↔ manifest.cycleThrough? entry.1 = none := by
  rw [checkCycle]
  split
  next chain hchain => simp [hchain]
  next hnone => simp [hnone]

theorem forM_checkCycle_eq_ok_iff {manifest : Manifest}
    (hnames : (manifest.types.map Prod.fst).Nodup) :
    forM manifest.types manifest.checkCycle = .ok () ↔ manifest.Acyclic := by
  simp only [forM_eq_ok_iff, checkCycle_eq_ok_iff, acyclic_iff_forall_types hnames]

/-- A cycle is reported from the first declared type that leads back to itself. -/
theorem exists_first_inheritanceCycle {manifest : Manifest}
    (hnames : (manifest.types.map Prod.fst).Nodup) (hcyclic : ¬ manifest.Acyclic) :
    ∃ before entry after chain, manifest.types = before ++ entry :: after ∧
      (∀ earlier ∈ before, manifest.cycleThrough? earlier.1 = none) ∧
      manifest.cycleThrough? entry.1 = some chain ∧
      forM manifest.types manifest.checkCycle =
        .error (.inheritanceCycle chain (entry.2.base.map (·.span))) := by
  cases hcheck : forM manifest.types manifest.checkCycle with
  | ok => exact absurd ((forM_checkCycle_eq_ok_iff hnames).mp hcheck) hcyclic
  | error fault =>
      obtain ⟨before, entry, after, htypes, hbefore, hentry⟩ :=
        exists_first_of_forM_eq_error hcheck
      simp only [checkCycle_eq_ok_iff] at hbefore
      rw [checkCycle] at hentry
      split at hentry
      next chain hchain =>
        obtain rfl := Except.error.inj hentry
        exact ⟨before, entry, after, chain, htypes, hbefore, hchain, rfl⟩
      next => simp at hentry

theorem exists_inheritanceCycle {manifest : Manifest}
    (hnames : (manifest.types.map Prod.fst).Nodup) (hcyclic : ¬ manifest.Acyclic) :
    ∃ chain label,
      forM manifest.types manifest.checkCycle = .error (.inheritanceCycle chain label) := by
  obtain ⟨_, _, _, chain, -, -, -, hfault⟩ := exists_first_inheritanceCycle hnames hcyclic
  exact ⟨chain, _, hfault⟩

/-! ## Acceptance -/

/-- The demands on a manifest beyond its structure. -/
structure WellFormed (manifest : Manifest) : Prop where
  output_ne_empty : manifest.generator.output.text ≠ ""
  baseType_isTypeName : isTypeName manifest.generator.baseType
  names_areTypeNames : ∀ name declaration, (name, declaration) ∈ manifest.types →
    isTypeName name
  bases_areTypeNames : ∀ name declaration reference, (name, declaration) ∈ manifest.types →
    declaration.base = some reference → isTypeName reference.name
  acyclic : manifest.Acyclic

theorem firstIllNamed?_eq_none_iff {manifest : Manifest} :
    firstIllNamed? manifest.namePlaces = none ↔
      isTypeName manifest.generator.baseType ∧
        (∀ name declaration, (name, declaration) ∈ manifest.types → isTypeName name) ∧
        ∀ name declaration reference, (name, declaration) ∈ manifest.types →
          declaration.base = some reference → isTypeName reference.name := by
  simp only [firstIllNamed?, namePlaces, List.find?_eq_none, List.forall_mem_cons,
    List.mem_flatMap, Bool.not_eq_true', Bool.not_eq_false, Prod.exists]
  apply and_congr_right
  intro _
  constructor
  · intro hplaces
    constructor
    · intro name declaration hmem
      exact hplaces (keyPlace name) ⟨name, declaration, hmem, List.mem_cons_self⟩
    · intro name declaration reference hmem hbase
      exact hplaces (basePlace name reference) ⟨name, declaration, hmem, by simp [hbase]⟩
  · rintro ⟨hnames, hbases⟩ place ⟨name, declaration, hmem, hplace⟩
    rcases List.mem_cons.mp hplace with rfl | hplace
    · exact hnames name declaration hmem
    · obtain ⟨reference, hbase, rfl⟩ :=
        Option.map_eq_some_iff.mp (Option.mem_toList.mp hplace)
      exact hbases name declaration reference hmem hbase

theorem wellFormed_iff {manifest : Manifest} :
    manifest.WellFormed ↔
      manifest.generator.output.text ≠ "" ∧ firstIllNamed? manifest.namePlaces = none ∧
        manifest.Acyclic := by
  rw [firstIllNamed?_eq_none_iff]
  constructor
  · rintro ⟨houtput, hbase, hnames, hbases, hacyclic⟩
    exact ⟨houtput, ⟨hbase, hnames, hbases⟩, hacyclic⟩
  · rintro ⟨houtput, ⟨hbase, hnames, hbases⟩, hacyclic⟩
    exact ⟨houtput, hbase, hnames, hbases, hacyclic⟩

/-- Validation looks at the output path, then at the names, then for cycles. -/
theorem validate_eq (manifest : Manifest) (source : String) :
    ∃ names, ReportsFirst manifest.namePlaces names ∧
      manifest.validate source =
        (do
          ((Context.ofSource source).push "generator").checkOutput manifest.generator.output
          names
          forM manifest.types manifest.checkCycle) := by
  refine ⟨_, ReportsFirst.append (reportsFirst_checkTypeName
    ((Context.ofSource source).push "generator") manifest.generator.baseType "base type" none)
    (reportsFirst_checkDeclarations source manifest.types), ?_⟩
  simp only [validate, bind_assoc]
  rfl

section Validate

variable {manifest : Manifest} (source : String)

theorem validate_of_output_empty (houtput : manifest.generator.output.text = "") :
    ∃ label, manifest.validate source = .error (.emptyOutput label) := by
  obtain ⟨names, -, hvalidate⟩ := validate_eq manifest source
  rw [hvalidate, Context.checkOutput, if_pos (by simp [Path.isEmpty, houtput])]
  exact ⟨_, rfl⟩

theorem validate_of_illNamed (houtput : manifest.generator.output.text ≠ "")
    {place : NamePlace} (hplace : firstIllNamed? manifest.namePlaces = some place) :
    ∃ label,
      manifest.validate source = .error (.invalidTypeName place.name place.context label) := by
  obtain ⟨names, hnames, hvalidate⟩ := validate_eq manifest source
  rw [ReportsFirst, hplace] at hnames
  obtain ⟨label, hnames⟩ := hnames
  rw [hvalidate, Context.checkOutput, if_neg (by simpa [Path.isEmpty] using houtput), hnames]
  exact ⟨label, rfl⟩

theorem validate_of_wellNamed (houtput : manifest.generator.output.text ≠ "")
    (hplaces : firstIllNamed? manifest.namePlaces = none) :
    manifest.validate source = forM manifest.types manifest.checkCycle := by
  obtain ⟨names, hnames, hvalidate⟩ := validate_eq manifest source
  rw [ReportsFirst, hplaces] at hnames
  rw [hvalidate, Context.checkOutput, if_neg (by simpa [Path.isEmpty] using houtput), hnames]
  rfl

theorem validate_eq_ok_iff (hnames : (manifest.types.map Prod.fst).Nodup) :
    manifest.validate source = .ok () ↔ manifest.WellFormed := by
  rw [wellFormed_iff]
  by_cases houtput : manifest.generator.output.text = ""
  · obtain ⟨label, hfault⟩ := validate_of_output_empty source houtput
    simp [hfault, houtput]
  cases hplaces : firstIllNamed? manifest.namePlaces with
  | some place =>
      obtain ⟨label, hfault⟩ := validate_of_illNamed source houtput hplaces
      simp [hfault]
  | none =>
      rw [validate_of_wellNamed source houtput hplaces, forM_checkCycle_eq_ok_iff hnames]
      simp [houtput]

end Validate

/-- Reading is validation, once the source has turned out to be a manifest. -/
theorem ofSource_eq_validate {source : String} (file : String) {table : Document.Table}
    {manifest : Manifest} (hdocument : Document.ofSource? source.toList = some table)
    (hmanifest : ofDocument table = .ok manifest) :
    ofSource source file =
      ((manifest.validate source).mapError (.refused file)).map fun _ => manifest := by
  rw [ofSource, read, hdocument]
  simp only [hmanifest]
  cases manifest.validate source <;> rfl

theorem exists_document_of_ofSource {source file : String} {manifest : Manifest}
    (hread : ofSource source file = .ok manifest) :
    ∃ table, Document.ofSource? source.toList = some table ∧ ofDocument table = .ok manifest := by
  cases hdocument : Document.ofSource? source.toList with
  | none => simp [ofSource, read, hdocument, Except.mapError] at hread
  | some table =>
      cases hmanifest : ofDocument table with
      | error mismatch => simp [ofSource, read, hdocument, hmanifest, Except.mapError] at hread
      | ok decoded =>
          rw [ofSource_eq_validate file hdocument hmanifest] at hread
          refine ⟨table, rfl, ?_⟩
          cases hvalidate : decoded.validate source with
          | error fault => simp [hvalidate, Except.mapError, Except.map] at hread
          | ok =>
              rw [hmanifest]
              simpa [hvalidate, Except.mapError, Except.map] using hread

theorem nodup_names_of_ofSource {source file : String} {manifest : Manifest}
    (hread : ofSource source file = .ok manifest) : (manifest.types.map Prod.fst).Nodup := by
  obtain ⟨table, hdocument, hmanifest⟩ := exists_document_of_ofSource hread
  exact nodup_names_of_ofDocument (Document.distinctKeys_of_ofSource? hdocument) hmanifest

theorem wellFormed_of_ofSource {source file : String} {manifest : Manifest}
    (hread : ofSource source file = .ok manifest) : manifest.WellFormed := by
  obtain ⟨table, hdocument, hmanifest⟩ := exists_document_of_ofSource hread
  rw [← validate_eq_ok_iff source (nodup_names_of_ofSource hread)]
  rw [ofSource_eq_validate file hdocument hmanifest] at hread
  cases hvalidate : manifest.validate source with
  | error fault => simp [hvalidate, Except.mapError, Except.map] at hread
  | ok => rfl

/-- A source that holds a manifest is accepted exactly if the manifest is well
formed, and else the first demand that fails is reported. -/
theorem ofSource_reports_first_fault {source : String} (file : String)
    {table : Document.Table} {manifest : Manifest}
    (hdocument : Document.ofSource? source.toList = some table)
    (hmanifest : ofDocument table = .ok manifest) :
    (ofSource source file = .ok manifest ↔ manifest.WellFormed) ∧
    (∀ accepted, ofSource source file = .ok accepted → accepted = manifest) ∧
    (manifest.generator.output.text = "" →
      ∃ label, ofSource source file = .error (.refused file (.emptyOutput label))) ∧
    (manifest.generator.output.text ≠ "" →
      ∀ place, firstIllNamed? manifest.namePlaces = some place →
        ∃ label, ofSource source file =
          .error (.refused file (.invalidTypeName place.name place.context label))) ∧
    (manifest.generator.output.text ≠ "" → firstIllNamed? manifest.namePlaces = none →
      ¬ manifest.Acyclic →
        ∃ chain label, ofSource source file =
          .error (.refused file (.inheritanceCycle chain label))) := by
  have hnames := nodup_names_of_ofDocument (Document.distinctKeys_of_ofSource? hdocument)
    hmanifest
  have hread := ofSource_eq_validate file hdocument hmanifest
  refine ⟨?_, ?_, fun houtput => ?_, fun houtput place hplace => ?_,
    fun houtput hplaces hcyclic => ?_⟩
  · rw [hread, ← validate_eq_ok_iff source hnames]
    cases manifest.validate source <;> simp [Except.mapError, Except.map]
  · intro accepted haccepted
    rw [hread] at haccepted
    cases hvalidate : manifest.validate source with
    | error fault => simp [hvalidate, Except.mapError, Except.map] at haccepted
    | ok => simpa [hvalidate, Except.mapError, Except.map] using haccepted.symm
  · obtain ⟨label, hfault⟩ := validate_of_output_empty source houtput
    exact ⟨label, by rw [hread, hfault]; rfl⟩
  · obtain ⟨label, hfault⟩ := validate_of_illNamed source houtput hplace
    exact ⟨label, by rw [hread, hfault]; rfl⟩
  · obtain ⟨chain, label, hfault⟩ := exists_inheritanceCycle hnames hcyclic
    rw [← validate_of_wellNamed source houtput hplaces] at hfault
    exact ⟨chain, label, by rw [hread, hfault]; rfl⟩

/-- A type that leads into a cycle of two others. -/
def cyclicSource : String :=
  "[generator]\noutput = \"M.cs\"\n[types.A]\nextends = \"B\"\n[types.B]\nextends = \"C\"\n" ++
    "[types.C]\nextends = \"B\"\n"

/-- The manifest in `cyclicSource`. -/
def cyclicManifest : Manifest :=
  let declaration (base : String) (span : Document.Span) : TypeDeclaration :=
    ⟨none, some ⟨base, span⟩, false, false, true, none⟩
  ⟨⟨⟨"M.cs"⟩, 0, Affixes.none, defaultBaseType, true⟩,
    [("A", declaration "B" ⟨48, 51⟩), ("B", declaration "C" ⟨72, 75⟩),
      ("C", declaration "B" ⟨96, 99⟩)]⟩

theorem ofSource_cyclicSource :
    ∃ table, Document.ofSource? cyclicSource.toList = some table ∧
      ofDocument table = .ok cyclicManifest ∧
      cyclicManifest.generator.output.text ≠ "" ∧
      firstIllNamed? cyclicManifest.namePlaces = none ∧
      ¬ cyclicManifest.Acyclic ∧
      ∃ chain label, ofSource cyclicSource fileName =
        .error (.refused fileName (.inheritanceCycle chain label)) := by
  obtain ⟨table, hdocument, hmanifest⟩ : ∃ table,
      Document.ofSource? cyclicSource.toList = some table ∧
        ofDocument table = .ok cyclicManifest :=
    Option.map_eq_some_iff.mp (by decide +kernel)
  have houtput : cyclicManifest.generator.output.text ≠ "" := by decide
  have hplaces : firstIllNamed? cyclicManifest.namePlaces = none := by decide +kernel
  have hcyclic : ¬ cyclicManifest.Acyclic := fun hacyclic => by
    have hforth : cyclicManifest.Extends "B" "C" :=
      ⟨_, _, List.mem_cons_of_mem _ List.mem_cons_self, rfl, rfl⟩
    have hback : cyclicManifest.Extends "C" "B" :=
      ⟨_, _, List.mem_cons_of_mem _ (List.mem_cons_of_mem _ List.mem_cons_self), rfl, rfl⟩
    exact hacyclic "B" (.head hforth (.single hback))
  exact ⟨table, hdocument, hmanifest, houtput, hplaces, hcyclic,
    (ofSource_reports_first_fault fileName hdocument hmanifest).2.2.2.2 houtput hplaces hcyclic⟩

end AssetMenu.Manifest
