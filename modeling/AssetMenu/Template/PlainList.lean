import AssetMenu.Template.Basic

/-!
# The plain list

A template without any program text: one line for each entry between `begin` and
`end`.
-/

namespace AssetMenu.Template

open Code

/-- Number, menu path, type and priority of an entry on one line. -/
def plainLine (entry : MenuEntry) : String :=
  toString entry.ordinal ++ " " ++ entry.menuPath ++ " " ++ entry.typeName ++ " " ++
    toString entry.priority

/-- The plain list. -/
def plainList : Template where
  name := "plain-list"
  indent := .spaces 2
  menuRoot := "Menu/"
  banner := [.line "# generated"]
  header := [.line "begin", .indent]
  entry := fun entry => [.line (plainLine entry)]
  helper := []
  footer := [.dedent, .line "end"]

end AssetMenu.Template
