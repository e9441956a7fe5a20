import AssetMenu.Config
import AssetMenu.Naming
import AssetMenu.Template.Basic

/-!
# The generated text

The entries of a run are put into the order of their numbers and written by a
template, each with a blank line behind it.  The text depends on nothing but the
entries and the settings.
-/

namespace AssetMenu

open Code

/-- What a template is told about a named candidate.  The priority of the run
counts if the candidate has none of its own. -/
def Template.menuEntry (template : Template) (config : Config) (resolved : Resolved) :
    MenuEntry :=
  { ordinal := resolved.ordinal
    menuPath := template.menuRoot ++ resolved.identifier
    priority := resolved.candidate.tag.order.getD config.order
    typeName := resolved.candidate.type.sourceName
    qualifiedName := resolved.candidate.type.qualifiedName }

/-- Entries in the order of their numbers. -/
def inOrder (entries : List Resolved) : List Resolved :=
  entries.mergeSort fun a b => a.ordinal ≤ b.ordinal

/-- The fragment of one entry. -/
def Template.entryFragment (template : Template) (config : Config) (resolved : Resolved) :
    Fragment :=
  template.entry (template.menuEntry config resolved) ++ [.blank]

/-- The whole file as a fragment. -/
def Template.fragment (template : Template) (config : Config) (entries : List Resolved) :
    Fragment :=
  template.banner ++ template.header ++
    each (inOrder entries) (template.entryFragment config) ++
    template.helper ++ template.footer ++ [.blank]

/-- The text of the generated file. -/
def Template.emit (template : Template) (config : Config) (entries : List Resolved) : String :=
  render template.indent (template.fragment config entries)

end AssetMenu
