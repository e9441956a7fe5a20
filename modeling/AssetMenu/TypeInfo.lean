import AssetMenu.TypeName

/-!
# What is known of a type

The facts about a type that decide whether a menu entry is made for it.
-/

namespace AssetMenu

/-- A type and its base types.  The ancestors are listed from the nearest to the
farthest, without the type itself. -/
structure TypeInfo where
  fullName : String
  assembly : Option String
  isAbstract : Bool
  isGenericDefinition : Bool
  isPublic : Bool
  ancestors : List String
  deriving DecidableEq, Repr

namespace TypeInfo

/-- The name without namespace and enclosing types. -/
def simpleName (type : TypeInfo) : String :=
  AssetMenu.simpleName type.fullName

/-- The name as program text refers to the type. -/
def sourceName (type : TypeInfo) : String :=
  AssetMenu.sourceName type.fullName

/-- The full name, followed by the assembly if it is known. -/
def qualifiedName (type : TypeInfo) : String :=
  match type.assembly with
  | some assembly => type.fullName ++ ", " ++ assembly
  | none => type.fullName

/-- Is `base` among the ancestors?  A type does not derive from itself. -/
def derivesFrom (type : TypeInfo) (base : String) : Bool :=
  type.ancestors.contains base

end TypeInfo

end AssetMenu
