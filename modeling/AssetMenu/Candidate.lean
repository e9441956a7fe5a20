import AssetMenu.Manifest.Registry

/-!
# Candidates

The types that menu entries are wished for.  A manifest yields one for each of
its tagged types, in the order of the document.
-/

namespace AssetMenu

/-- A type and the tag it carries. -/
structure Candidate where
  type : TypeInfo
  tag : MenuTag
  deriving DecidableEq, Repr

/-- The candidates of a manifest. -/
def Manifest.candidates (manifest : Manifest) : List Candidate :=
  manifest.tagged.filterMap fun entry =>
    (manifest.typeInfo? entry.1).map fun type => ⟨type, entry.2⟩

end AssetMenu
