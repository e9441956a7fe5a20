import AssetMenu.Document.Assembly
import AssetMenu.Manifest.Context
import AssetMenu.Manifest.Decode
import AssetMenu.Manifest.Registry

/-!
# Reading manifests

A source is accepted as a manifest if it is a well-formed document, has the
structure of a manifest, names an output file, names all types correctly, and no
type is its own ancestor.  The first of these demands that fails is reported.
-/

namespace AssetMenu.Manifest

/-- The names of a declared type: its own and the one of its base. -/
def checkDeclaration (context : Context) (entry : String × TypeDeclaration) :
    Except ManifestFault Unit := do
  let (name, declaration) := entry
  context.checkTypeName name "type name" none
  match declaration.base with
  | some base => (context.push name).checkTypeName base.name "base type" (some base.span)
  | none => .ok ()

/-- No type may come up among its own bases.  The fault points at the base of the
type that the cycle is reported from. -/
def checkCycle (manifest : Manifest) (entry : String × TypeDeclaration) :
    Except ManifestFault Unit :=
  match manifest.cycleThrough? entry.1 with
  | some chain => .error (.inheritanceCycle chain (entry.2.base.map (·.span)))
  | none => .ok ()

/-- The demands on a manifest beyond its structure. -/
def validate (manifest : Manifest) (source : String) : Except ManifestFault Unit := do
  let context := Context.ofSource source
  let generator := context.push "generator"
  generator.checkOutput manifest.generator.output
  generator.checkTypeName manifest.generator.baseType "base type" none
  manifest.types.forM (checkDeclaration (context.push "types"))
  manifest.types.forM manifest.checkCycle

/-- Read a source, without the name it goes by. -/
def read (source : String) : Except ManifestFault Manifest :=
  match Document.ofSource? source.toList with
  | none => .error .malformed
  | some table =>
      match ofDocument table with
      | .error mismatch => .error (.mismatch mismatch)
      | .ok manifest => do
          manifest.validate source
          .ok manifest

/-- The name that a source goes by unless it has another one. -/
def fileName : String :=
  "menugen.toml"

/-- Read a source that goes by the name `file`. -/
def ofSource (source : String) (file : String) : Except ManifestError Manifest :=
  (read source).mapError (.refused file)

end AssetMenu.Manifest
