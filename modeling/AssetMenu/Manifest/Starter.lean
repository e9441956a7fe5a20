import AssetMenu.Document.Printer
import AssetMenu.Manifest.Read

/-!
# The starter manifest

A project begins with a manifest that declares the base type of all assets and
two types as an example, one of which is tagged.
-/

namespace AssetMenu

/-- What a starter manifest can be told. -/
structure Starter where
  output : String
  order : Int
  baseType : String
  deriving DecidableEq, Repr

namespace Starter

/-- The starter manifest that is told nothing. -/
def standard : Starter :=
  ⟨"Assets/Editor/CreateItemMenu.g.cs", 0, defaultBaseType⟩

/-- The place of the manifest in a directory. -/
def pathIn (directory : Path) : Path :=
  directory.join ⟨Manifest.fileName⟩

/-- A text as a value of the manifest. -/
def quote (text : String) : String :=
  String.ofList (Document.printText text.toList)

/-- The settings. -/
def settingsText (starter : Starter) : String :=
  "[generator]\n" ++
  "output = " ++ quote starter.output ++ "\n" ++
  "order = " ++ toString starter.order ++ "\n" ++
  "prefix = \"\"\n" ++
  "suffix = \"\"\n" ++
  "base_type = " ++ quote starter.baseType ++ "\n"

/-- What the rest of the manifest is for. -/
def explanation : String :=
  "# Declare the asset types of your project. Every type needs an ancestor\n" ++
  "# chain that reaches the base type through `extends`.\n" ++
  "#\n" ++
  "# A `menu` table tags the type for generation. Untagged types are only\n" ++
  "# used to resolve inheritance.\n"

/-- The declarations. -/
def typesText (starter : Starter) : String :=
  "[types." ++ quote starter.baseType ++ "]\n" ++
  "assembly = \"UnityEngine.CoreModule\"\n" ++
  "\n" ++
  "[types.\"Game.Items.Item\"]\n" ++
  "assembly = \"Assembly-CSharp\"\n" ++
  "extends = " ++ quote starter.baseType ++ "\n" ++
  "abstract = true\n" ++
  "\n" ++
  "[types.\"Game.Items.Sword\"]\n" ++
  "assembly = \"Assembly-CSharp\"\n" ++
  "extends = \"Game.Items.Item\"\n" ++
  "menu = \x7b prefix = \"Items/\" \x7d\n"

/-- The text of the manifest. -/
def text (starter : Starter) : String :=
  starter.settingsText ++ "\n" ++ explanation ++ "\n" ++ starter.typesText

end Starter

end AssetMenu
