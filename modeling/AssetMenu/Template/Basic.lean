import AssetMenu.Code.Fragment

/-!
# Templates

The generated file has the same parts in every target language: a banner, a
header, one fragment for each menu entry, a helper that all of them use, and a
footer that closes what the header opened.  A template says how the parts are
spelled.
-/

namespace AssetMenu

open Code

/-- What a template is told about a menu entry. -/
structure MenuEntry where
  ordinal : Nat
  /-- Where the entry stands in the menu. -/
  menuPath : String
  priority : Int
  /-- The type as the text refers to it. -/
  typeName : String
  /-- The type as the entry's comment names it. -/
  qualifiedName : String
  deriving DecidableEq, Repr

/-- The spelling of a generated file. -/
structure Template where
  name : String
  indent : Indent
  /-- What every menu path begins with. -/
  menuRoot : String
  banner : Fragment
  header : Fragment
  entry : MenuEntry → Fragment
  helper : Fragment
  footer : Fragment

end AssetMenu
