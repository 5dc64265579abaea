import Abacus.Settings.Basic
import Abacus.Toml.Writer

/-!
# Settings as TOML

The form in which settings are saved and displayed: the version, then a section for each group.
-/

namespace Abacus.Settings

/-- The sections of the saved form, with the levels of the modules in the order given. -/
def sectionsWith (s : Settings) (modules : List (String × String)) : List Toml.Section := [
  ⟨[], [("version", .integer s.version.toNat)]⟩,
  ⟨["defaults"], [("initial_value", .integer s.defaults.initialValue.toInt),
    ("sum_seed", .integer s.defaults.sumSeed.toInt),
    ("product_seed", .integer s.defaults.productSeed.toInt)]⟩,
  ⟨["scientific"], [("negative_sqrt", .string s.scientific.negativeSqrt.name)]⟩,
  ⟨["logging"], [("default", .string s.logging.default)]⟩,
  ⟨["logging", "modules"], modules.map fun (k, v) => (k, .string v)⟩]

/-- The sections of the saved form. -/
def sections (s : Settings) : List Toml.Section := s.sectionsWith s.logging.modules.toList

/-- The text of the saved form. -/
def toToml (s : Settings) : String := Toml.render s.sections

end Abacus.Settings
