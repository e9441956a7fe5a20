import AssetMenu.Candidate

/-!
# Which types get entries

A menu entry creates an instance of its type, and the instance is to be an asset.
So the type must be concrete, closed, derived from the base type of all assets,
and visible.  The first of these rules that a type breaks is the reason given.
-/

namespace AssetMenu

/-- Why a type gets no menu entry. -/
inductive Rejection where
  | abstractType
  | genericDefinition
  | notDerived (base : String)
  | notPublic
  deriving DecidableEq, Repr

def Rejection.message : Rejection → String
  | .abstractType => "type is abstract"
  | .genericDefinition => "type is an unbound generic definition"
  | .notDerived base => "type does not derive from '" ++ base ++ "'"
  | .notPublic => "type is not public"

/-- The first rule that a type breaks, where `base` is the base type of all
assets. -/
def TypeInfo.rejection? (base : String) (type : TypeInfo) : Option Rejection :=
  if type.isAbstract then some .abstractType
  else if type.isGenericDefinition then some .genericDefinition
  else if !type.derivesFrom base then some (.notDerived base)
  else if !type.isPublic then some .notPublic
  else none

/-- Does the candidate get a menu entry, as far as its type is concerned? -/
def Candidate.isEligible (base : String) (candidate : Candidate) : Bool :=
  (candidate.type.rejection? base).isNone

end AssetMenu
