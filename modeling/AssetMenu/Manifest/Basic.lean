import AssetMenu.Document.Span
import AssetMenu.Output
import AssetMenu.TypeInfo

/-!
# Manifests

A manifest says where the generated file goes and declares the types of a
project.  A type names its base, which may but need not be declared itself, and
is tagged if it is to have a menu entry.  The order of the declarations matters,
since types that compete for a name are served in that order.
-/

namespace AssetMenu

/-- Texts put around the name of a menu entry. -/
structure Affixes where
  before : String
  after : String
  deriving DecidableEq, Repr

/-- No text on either side. -/
def Affixes.none : Affixes :=
  ⟨"", ""⟩

/-- Base type of the types that get menu entries, if a manifest names none. -/
def defaultBaseType : String :=
  "UnityEngine.ScriptableObject"

/-- Settings of the generated file. -/
structure GeneratorSettings where
  output : Path
  order : Int
  affixes : Affixes
  baseType : String
  createDirectories : Bool
  deriving DecidableEq, Repr

/-- The wish for a menu entry. -/
structure MenuTag where
  affixes : Affixes
  order : Option Int
  deriving DecidableEq, Repr

/-- The base a type names, and where it names it. -/
structure BaseReference where
  name : String
  span : Document.Span
  deriving DecidableEq, Repr

/-- A declared type. -/
structure TypeDeclaration where
  assembly : Option String
  base : Option BaseReference
  isAbstract : Bool
  isGeneric : Bool
  isPublic : Bool
  menu : Option MenuTag
  deriving DecidableEq, Repr

/-- Is a menu entry wished for? -/
def TypeDeclaration.isTagged (declaration : TypeDeclaration) : Bool :=
  declaration.menu.isSome

/-- The settings, and the declared types by name in the order of the document. -/
structure Manifest where
  generator : GeneratorSettings
  types : List (String × TypeDeclaration)
  deriving DecidableEq, Repr

/-- May missing directories be created? -/
def GeneratorSettings.policy (settings : GeneratorSettings) : DirectoryPolicy :=
  if settings.createDirectories then .create else .requireExisting

end AssetMenu
