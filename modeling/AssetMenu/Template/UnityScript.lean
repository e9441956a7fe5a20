import AssetMenu.Template.Basic
import AssetMenu.Template.Literal

/-!
# The editor script

The template of a C# script for the Unity editor.  The script is one class with a
method for each menu entry, which creates an instance and hands it to a common
helper.  The helper makes an asset of it in the folder that is selected, and
refreshes and saves the project.
-/

namespace AssetMenu.Template

open Code

namespace UnityScript

/-- The calls of the editor that the script makes. -/
structure Api where
  instanceType : String
  menuAttribute : String
  createInstance : String
  selectionPath : String
  createAsset : String
  refresh : String
  save : String

def api : Api where
  instanceType := "UnityEngine.ScriptableObject"
  menuAttribute := "UnityEditor.MenuItem"
  createInstance := "UnityEngine.ScriptableObject.CreateInstance"
  selectionPath := "UnityEditor.AssetDatabase.GetAssetPath(UnityEditor.Selection.activeObject)"
  createAsset := "UnityEditor.ProjectWindowUtil.CreateAsset"
  refresh := "UnityEditor.AssetDatabase.Refresh"
  save := "UnityEditor.AssetDatabase.SaveAssets"

/-- Name of the helper. -/
def helperName : String := "_CreateAsset"

/-- Name of the file that an asset is made in. -/
def assetFile : String := "New Asset.asset"

def banner : Fragment :=
  lines
    [ "//------------------------------------------------------------------------------",
      "// <auto-generated>",
      "//     This code was generated by menugen.",
      "//     Changes to this file will be lost when the code is regenerated.",
      "// </auto-generated>",
      "//------------------------------------------------------------------------------" ] ++
    [.blank]

def header : Fragment :=
  [ .line "#if UNITY_EDITOR", .blank,
    .line "namespace Menugen._AutoGenerated", .line "\x7b", .indent,
    .line "internal class __CreateItemMenuMethods", .line "\x7b", .indent ]

/-- The line that registers the entry in the menu. -/
def attributeLine (entry : MenuEntry) : String :=
  "[" ++ api.menuAttribute ++ "(\"" ++ escape entry.menuPath ++ "\", priority = " ++
    toString entry.priority ++ ")]"

/-- The line that creates an instance of the entry's type. -/
def instanceLine (entry : MenuEntry) : String :=
  "var item = " ++ api.createInstance ++ "(typeof(" ++ entry.typeName ++ "));"

def entry (entry : MenuEntry) : Fragment :=
  comment "//" ("Menu item for '" ++ singleLine entry.qualifiedName ++ "'") ++
  [ .line (attributeLine entry),
    .line ("private static void _Generate" ++ toString entry.ordinal ++ "()") ] ++
  block "\x7b" "\x7d"
    [ .line (instanceLine entry), .line (helperName ++ "(item);") ]

def helper : Fragment :=
  comment "//" "Utility method for creating asset instances" ++
  [.line ("private static void " ++ helperName ++ "(" ++ api.instanceType ++ " instance)")] ++
  block "\x7b" "\x7d"
    [ .line ("var path = " ++ api.selectionPath ++ ";"),
      .line ("var assetPath = path + \"/" ++ escape assetFile ++ "\";"),
      .line (api.createAsset ++ "(instance, assetPath);"),
      .line (api.refresh ++ "();"),
      .line (api.save ++ "();") ]

def footer : Fragment :=
  [.dedent, .line "\x7d", .dedent, .line "\x7d", .line "#endif"]

end UnityScript

/-- The editor script. -/
def unityScript : Template where
  name := "unity-csharp"
  indent := .tab
  menuRoot := "Assets/Create/"
  banner := UnityScript.banner
  header := UnityScript.header
  entry := UnityScript.entry
  helper := UnityScript.helper
  footer := UnityScript.footer

end AssetMenu.Template
