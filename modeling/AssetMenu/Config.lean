import AssetMenu.Manifest.File

/-!
# Settings of a run

What a single run works with: the settings of the manifest, with the output path
as seen from the working directory, and the values that a user gives in their
place.
-/

namespace AssetMenu

/-- Settings of one run. -/
structure Config where
  /-- Priority of the entries that have none of their own. -/
  order : Int
  /-- Texts around the name of every entry. -/
  affixes : Affixes
  output : Path
  /-- The type that the type of every entry derives from. -/
  baseType : String
  policy : DirectoryPolicy
  deriving DecidableEq, Repr

namespace Config

/-- The settings of a run that names only its output. -/
def ofOutput (output : Path) : Config :=
  ⟨0, Affixes.none, output, defaultBaseType, .create⟩

/-- The settings of a manifest, with the output path as it is written there. -/
def ofSettings (settings : GeneratorSettings) : Config :=
  { order := settings.order
    affixes := settings.affixes
    output := settings.output
    baseType := settings.baseType
    policy := settings.policy }

/-- The settings of a manifest file. -/
def ofFile (file : ManifestFile) : Config :=
  { ofSettings file.manifest.generator with output := file.outputPath }

end Config

/-- Values that take the place of settings. -/
structure Overrides where
  output : Option Path
  before : Option String
  after : Option String
  order : Option Int
  deriving DecidableEq, Repr

namespace Overrides

/-- Nothing is replaced. -/
def none : Overrides :=
  ⟨.none, .none, .none, .none⟩

/-- The settings with the given values in their place. -/
def apply (overrides : Overrides) (config : Config) : Config :=
  { config with
    output := overrides.output.getD config.output
    affixes :=
      { before := overrides.before.getD config.affixes.before
        after := overrides.after.getD config.affixes.after }
    order := overrides.order.getD config.order }

end Overrides

end AssetMenu
