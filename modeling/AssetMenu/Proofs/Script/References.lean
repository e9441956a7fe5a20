import AssetMenu.Proofs.Script.LineEnds

/-!
# The types that the editor script refers to

The script refers to a type by the segments of its name with dots between them.  A segment
with a number of type parameters is no identifier of the program.  Whether there are such
segments is a matter of the name, and whether a type is passed over as generic is a matter of
what is declared of it.  So a type gets an entry that refers to it by no program text if it has
the mark in its name and is not declared generic.
-/

namespace AssetMenu

open Text Code

/-- Plain identifiers with dots between them, as a program refers to a type. -/
structure IsReference (text : String) : Prop where
  parts : ∀ part ∈ fields (· == '.') text.toList, TypeName.isIdentifier part = true
  no_plus : '+' ∉ text.toList
  no_mark : TypeName.arityMark ∉ text.toList

/-- A text that refers to a type by the segments of its name. -/
structure RefersTo (text fullName : String) : Prop where
  parts_eq : fields (· == '.') text.toList = TypeName.segments fullName.toList
  parts_areSegments : ∀ part ∈ fields (· == '.') text.toList, TypeName.isSegment part = true
  no_plus : '+' ∉ text.toList
  /-- Numbers of type parameters are all that keeps it from being a reference. -/
  isReference_iff : IsReference text ↔ TypeName.arityMark ∉ fullName.toList

theorem refersTo_sourceName {fullName : String} (hname : isTypeName fullName = true) :
    RefersTo (sourceName fullName) fullName := by
  have hparts : fields (· == '.') (sourceName fullName).toList =
      TypeName.segments fullName.toList := by
    rw [sourceName, String.toList_ofList, TypeName.fields_dotted]
  have hplus : '+' ∉ (sourceName fullName).toList := by
    rw [sourceName, String.toList_ofList]
    exact TypeName.plus_not_mem_dotted _
  constructor
  case parts_eq => exact hparts
  case parts_areSegments =>
    rw [hparts]
    exact List.all_eq_true.mp hname
  case no_plus => exact hplus
  case isReference_iff =>
    rw [← TypeName.forall_isIdentifier_iff hname, ← hparts]
    constructor
    · exact IsReference.parts
    · intro hidentifiers
      refine ⟨hidentifiers, hplus, fun hmark => ?_⟩
      rw [hparts, TypeName.forall_isIdentifier_iff hname] at hidentifiers
      exact hidentifiers (mem_of_mem_sourceName (by decide) hmark)

namespace Template.UnityScript

variable {source name : String} {manifest : Manifest}

/-- Each block of the script refers to the type of its entry by the segments of the name, with dots
between them.  A program can do so exactly if the name has no number of type parameters, since
the name is not looked at when generic types are passed over. -/
theorem emit_refersTo_types (hread : Manifest.ofSource source name = .ok manifest)
    (config : Config) :
    let entries := (Plan.make config manifest.candidates).entries
    ∀ (k : Nat) (hk : k < entries.length), ∃ data,
      readBlock? (blockAt (unityScript.emit config entries) k) = some data ∧
        RefersTo data.typeName entries[k].candidate.type.fullName := by
  intro entries k hk
  refine ⟨_, (readsBack_emit_make hread config).blocks_eq k hk, ?_⟩
  apply refersTo_sourceName
  exact (sound_of_mem_entries hread (List.getElem_mem hk)).typeName

/-- A nested type, and one with a type parameter that is not declared generic. -/
def boxedSource : String :=
  "[generator]\noutput = \"M.cs\"\n[types.\"Game.Outer+Item\"]\n" ++
    "extends = \"UnityEngine.ScriptableObject\"\nmenu = \x7b\x7d\n[types.\"Game.Box\x601\"]\n" ++
    "extends = \"UnityEngine.ScriptableObject\"\nmenu = \x7b\x7d\n"

/-- The manifest in `boxedSource`. -/
def boxedManifest : Manifest :=
  let declaration (span : Document.Span) : TypeDeclaration :=
    ⟨none, some ⟨defaultBaseType, span⟩, false, false, true, some ⟨Affixes.none, none⟩⟩
  ⟨⟨⟨"M.cs"⟩, 0, Affixes.none, defaultBaseType, true⟩,
    [("Game.Outer+Item", declaration ⟨64, 94⟩), ("Game.Box\x601", declaration ⟨136, 166⟩)]⟩

/-- The entries of `boxedManifest`. -/
def boxedEntries : List Resolved :=
  (Plan.make (Config.ofSettings boxedManifest.generator) boxedManifest.candidates).entries

theorem ofSource_boxedSource :
    Manifest.ofSource boxedSource Manifest.fileName = .ok boxedManifest := by
  exact eq_ok_of_toOption (by decide +kernel)

theorem emit_boxedSource :
    Manifest.ofSource boxedSource Manifest.fileName = .ok boxedManifest ∧
      boxedEntries.map (·.candidate.type.fullName) = ["Game.Outer+Item", "Game.Box\x601"] ∧
      ∀ (k : Nat) (hk : k < boxedEntries.length), ∃ data,
        readBlock? (blockAt (unityScript.emit (Config.ofSettings boxedManifest.generator)
          boxedEntries) k) = some data ∧
          RefersTo data.typeName boxedEntries[k].candidate.type.fullName :=
  ⟨ofSource_boxedSource, by decide +kernel, emit_refersTo_types ofSource_boxedSource _⟩

/-- The type with a type parameter is referred to with the mark in its name. -/
theorem emit_boxedSource_unreferable :
    Manifest.ofSource boxedSource Manifest.fileName = .ok boxedManifest ∧
      ∃ data, readBlock? (blockAt (unityScript.emit (Config.ofSettings boxedManifest.generator)
        boxedEntries) 1) = some data ∧
          data.typeName = "Game.Box\x601" ∧ ¬ IsReference data.typeName := by
  have hk : 1 < boxedEntries.length := by decide +kernel
  have hname : boxedEntries[1].candidate.type.sourceName = "Game.Box\x601" := by
    decide +kernel +revert
  have hreads := readsBack_emit_make ofSource_boxedSource (Config.ofSettings boxedManifest.generator)
  refine ⟨ofSource_boxedSource, _, hreads.blocks_eq 1 hk, hname, ?_⟩
  intro hreference
  have hmark : TypeName.arityMark ∉ boxedEntries[1].candidate.type.sourceName.toList :=
    hreference.no_mark
  rw [hname] at hmark
  exact hmark (by decide)

end Template.UnityScript

end AssetMenu
