import AssetMenu.Manifest.Error
import AssetMenu.Manifest.Label
import AssetMenu.TypeName

/-!
# Checks at a place of a manifest

A check knows the source and the keys that lead to the setting it looks at, so
that a fault can say where it was found.
-/

namespace AssetMenu

open Document

/-- A source, and the keys that lead to a place in it. -/
structure Context where
  source : String
  keys : List String
  deriving Repr

namespace Context

/-- The top of a source. -/
def ofSource (source : String) : Context :=
  ⟨source, []⟩

/-- One key further down. -/
def push (context : Context) (key : String) : Context :=
  { context with keys := context.keys ++ [key] }

/-- The keys with dots between them. -/
def path (context : Context) : String :=
  String.intercalate "." context.keys

/-- Something of the given kind, with the place it was found at. -/
def describe (context : Context) (kind : String) : String :=
  if context.keys.isEmpty then kind else kind ++ " in '" ++ context.path ++ "'"

/-- A type name has to be well formed.  If its place is not known, it is searched
for in the source. -/
def checkTypeName (context : Context) (name kind : String) (span : Option Span) :
    Except ManifestFault Unit :=
  if isTypeName name then .ok ()
  else
    let label := span <|> Label.ofName? context.source.toList name.toList
    .error (.invalidTypeName name (context.describe kind) label)

/-- The path of the generated file must not be empty. -/
def checkOutput (context : Context) (output : Path) : Except ManifestFault Unit :=
  if output.isEmpty then
    .error (.emptyOutput (Label.ofSetting? context.source.toList "output".toList))
  else .ok ()

end Context

end AssetMenu
