import AssetMenu.Manifest.Basic

/-!
# The registry of types

Lookups among the declared types.  The ancestors of a type are found by going
from base to base.  The walk ends at a name that is not declared, which still
counts, and before a name that would come up a second time.  Every step but the
last leaves a declared name behind for good, so there are no more steps than
declarations.
-/

namespace AssetMenu.Manifest

/-- The declaration of a type. -/
def declaration? (manifest : Manifest) (name : String) : Option TypeDeclaration :=
  manifest.types.lookup name

/-- The base that a type names. -/
def base? (manifest : Manifest) (name : String) : Option String :=
  (manifest.declaration? name).bind fun declaration => declaration.base.map (·.name)

/-- At most `bound` bases on the way up from `name`, without those in `seen`. -/
def basesWithin (manifest : Manifest) : Nat → List String → String → List String
  | 0, _, _ => []
  | bound + 1, seen, name =>
      match manifest.base? name with
      | none => []
      | some base =>
          if base ∈ seen then [] else base :: manifest.basesWithin bound (base :: seen) base

/-- The base types of a type, the nearest first. -/
def ancestors (manifest : Manifest) (name : String) : List String :=
  manifest.basesWithin manifest.types.length [name] name

/-- The way from `name` back to `start`, if it is found within `bound` steps and
before any name of `seen`. -/
def returnWithin (manifest : Manifest) (start : String) :
    Nat → List String → String → Option (List String)
  | 0, _, _ => none
  | bound + 1, seen, name =>
      match manifest.base? name with
      | none => none
      | some base =>
          if base = start then some [base]
          else if base ∈ seen then none
          else (manifest.returnWithin start bound (base :: seen) base).map (base :: ·)

/-- The bases from a type back to itself, with the type at both ends.  A cycle
that does not pass through the type is none of its own. -/
def cycleThrough? (manifest : Manifest) (start : String) : Option (List String) :=
  (manifest.returnWithin start manifest.types.length [start] start).map (start :: ·)

/-- What is known of a declared type. -/
def typeInfo? (manifest : Manifest) (name : String) : Option TypeInfo :=
  (manifest.declaration? name).map fun declaration =>
    { fullName := name
      assembly := declaration.assembly
      isAbstract := declaration.isAbstract
      isGenericDefinition := declaration.isGeneric
      isPublic := declaration.isPublic
      ancestors := manifest.ancestors name }

/-- The tagged types with their tags, in the order of the document. -/
def tagged (manifest : Manifest) : List (String × MenuTag) :=
  manifest.types.filterMap fun entry => entry.2.menu.map (entry.1, ·)

end AssetMenu.Manifest
