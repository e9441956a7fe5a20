import AssetMenu.Proofs.Manifest.Acceptance

/-!
# What a fault tells

A source is refused for one of few reasons.  The fault that is reported names the demand that
fails, together with the place where it was looked for.
-/

namespace AssetMenu.Manifest

variable {source : String} {manifest : Manifest} {fault : ManifestFault}

/-- The fault names a demand that the manifest does not meet. -/
inductive Violates (source : String) (manifest : Manifest) : ManifestFault → Prop where
  | emptyOutput (houtput : manifest.generator.output.text = "") :
      Violates source manifest
        (.emptyOutput (Label.ofSetting? source.toList "output".toList))
  | baseType (hname : ¬ isTypeName manifest.generator.baseType) :
      Violates source manifest
        (.invalidTypeName manifest.generator.baseType "base type in 'generator'"
          (Label.ofName? source.toList manifest.generator.baseType.toList))
  | typeName {name : String} {declaration : TypeDeclaration}
      (hentry : (name, declaration) ∈ manifest.types) (hname : ¬ isTypeName name) :
      Violates source manifest
        (.invalidTypeName name (keyPlace name).context
          (Label.ofName? source.toList name.toList))
  | base {name : String} {declaration : TypeDeclaration} {reference : BaseReference}
      (hentry : (name, declaration) ∈ manifest.types)
      (hbase : declaration.base = some reference) (hname : ¬ isTypeName reference.name) :
      Violates source manifest
        (.invalidTypeName reference.name (basePlace name reference).context
          (some reference.span))
  | cycle {name : String} {declaration : TypeDeclaration} {chain : List String}
      (hentry : (name, declaration) ∈ manifest.types)
      (hcycle : manifest.cycleThrough? name = some chain) :
      Violates source manifest
        (.inheritanceCycle chain (declaration.base.map (·.span)))

theorem checkTypeName_eq_error_iff {context : Context} {name kind : String}
    {span : Option Document.Span} :
    context.checkTypeName name kind span = .error fault ↔
      ¬ isTypeName name ∧ fault = .invalidTypeName name (context.describe kind)
        (span <|> Label.ofName? context.source.toList name.toList) := by
  rw [Context.checkTypeName]
  split
  next hname => simp [hname]
  next hname => simp [hname, eq_comm]

theorem checkOutput_eq_error_iff {context : Context} {output : Path} :
    context.checkOutput output = .error fault ↔
      output.text = "" ∧
        fault = .emptyOutput (Label.ofSetting? context.source.toList "output".toList) := by
  by_cases houtput : output.text = ""
  · rw [Context.checkOutput, if_pos (by simp [Path.isEmpty, houtput]), Except.error.injEq, eq_comm]
    simp only [houtput, true_and]
  · rw [Context.checkOutput, if_neg (by simpa [Path.isEmpty] using houtput)]
    simp only [reduceCtorEq, houtput, false_and]

theorem violates_of_checkDeclaration {entry : String × TypeDeclaration}
    (hentry : entry ∈ manifest.types)
    (hfault : checkDeclaration ((Context.ofSource source).push "types") entry = .error fault) :
    manifest.Violates source fault := by
  obtain ⟨name, declaration⟩ := entry
  rcases bind_eq_error_iff.mp hfault with hkey | ⟨_, -, hbase⟩
  · obtain ⟨hname, rfl⟩ := checkTypeName_eq_error_iff.mp hkey
    rw [describe_keyPlace source name]
    exact .typeName hentry hname
  · split at hbase
    next reference hreference =>
      obtain ⟨hname, rfl⟩ := checkTypeName_eq_error_iff.mp hbase
      rw [describe_basePlace source name reference]
      exact .base hentry hreference hname
    next => simp at hbase

theorem violates_of_checkCycle {entry : String × TypeDeclaration}
    (hentry : entry ∈ manifest.types) (hfault : manifest.checkCycle entry = .error fault) :
    manifest.Violates source fault := by
  obtain ⟨name, declaration⟩ := entry
  rw [checkCycle] at hfault
  split at hfault
  next chain hcycle =>
    obtain rfl := Except.error.inj hfault
    exact .cycle hentry hcycle
  next => simp at hfault

theorem violates_of_validate (hfault : manifest.validate source = .error fault) :
    manifest.Violates source fault := by
  rcases bind_eq_error_iff.mp hfault with hcheck | ⟨_, -, hfault⟩
  · obtain ⟨houtput, rfl⟩ := checkOutput_eq_error_iff.mp hcheck
    exact .emptyOutput houtput
  rcases bind_eq_error_iff.mp hfault with hbase | ⟨_, -, hfault⟩
  · obtain ⟨hname, rfl⟩ := checkTypeName_eq_error_iff.mp hbase
    exact .baseType hname
  rcases bind_eq_error_iff.mp hfault with hdeclarations | ⟨_, -, hcycles⟩
  · obtain ⟨before, entry, after, htypes, -, hentry⟩ :=
      exists_first_of_forM_eq_error hdeclarations
    exact violates_of_checkDeclaration (by simp [htypes]) hentry
  · obtain ⟨before, entry, after, htypes, -, hentry⟩ := exists_first_of_forM_eq_error hcycles
    exact violates_of_checkCycle (by simp [htypes]) hentry

/-- Why a source is refused. -/
inductive Refuses (source : String) : ManifestFault → Prop where
  | malformed (hdocument : Document.ofSource? source.toList = none) : Refuses source .malformed
  | mismatch {table : Document.Table} {difference : Mismatch}
      (hdocument : Document.ofSource? source.toList = some table)
      (hmanifest : ofDocument table = .error difference) : Refuses source (.mismatch difference)
  | violates {table : Document.Table} {manifest : Manifest} {fault : ManifestFault}
      (hdocument : Document.ofSource? source.toList = some table)
      (hmanifest : ofDocument table = .ok manifest)
      (hfault : manifest.Violates source fault) : Refuses source fault

theorem refuses_of_read (hread : read source = .error fault) : Refuses source fault := by
  rw [read] at hread
  split at hread
  next hdocument =>
    obtain rfl := Except.error.inj hread
    exact .malformed hdocument
  next table hdocument =>
    split at hread
    next difference hmanifest =>
      obtain rfl := Except.error.inj hread
      exact .mismatch hdocument hmanifest
    next manifest hmanifest =>
      rcases bind_eq_error_iff.mp hread with hvalidate | ⟨_, -, hok⟩
      · exact .violates hdocument hmanifest (violates_of_validate hvalidate)
      · simp at hok

/-- A source is refused under the name that it goes by. -/
theorem refuses_of_ofSource {file : String} {error : ManifestError}
    (hread : ofSource source file = .error error) :
    ∃ fault, error = .refused file fault ∧ Refuses source fault := by
  obtain ⟨fault, hfault, rfl⟩ := mapError_eq_error_iff.mp hread
  exact ⟨fault, rfl, refuses_of_read hfault⟩

end AssetMenu.Manifest
