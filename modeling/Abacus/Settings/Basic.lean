import Abacus.Aggregate
import Abacus.Dict
import Abacus.Text.Quoted

/-!
# Settings

What can be configured: the seeds that commands use when they are given none, what a square root
does with a negative value, and the levels of the log. Everything has a default.
-/

namespace Abacus

/-- Seeds used when a command does not pass one. -/
structure DefaultsConfig where
  initialValue : Int64 := 0
  sumSeed : Int64 := Aggregate.sumSeed
  productSeed : Int64 := Aggregate.productSeed
  deriving DecidableEq, Repr, Inhabited

/-- The behaviour of the scientific calculator. -/
structure ScientificConfig where
  negativeSqrt : SqrtPolicy := .error
  deriving DecidableEq, Repr, Inhabited

/-- The levels of the log: one for all targets, and one for each target with an override. -/
structure LoggingConfig where
  default : String := "warn"
  modules : Dict String := .empty
  deriving DecidableEq, Inhabited

/-- All settings, section by section; a field that nothing sets has its default. -/
structure Settings where
  /-- The version of the schema. -/
  version : UInt32 := 1
  defaults : DefaultsConfig := {}
  scientific : ScientificConfig := {}
  logging : LoggingConfig := {}
  deriving DecidableEq, Inhabited

namespace DefaultsConfig

def inspect (c : DefaultsConfig) : String :=
  "DefaultsConfig \x7b initial_value: " ++ Text.renderInt64 c.initialValue ++ ", sum_seed: " ++
    Text.renderInt64 c.sumSeed ++ ", product_seed: " ++ Text.renderInt64 c.productSeed ++ " \x7d"

end DefaultsConfig

namespace LoggingConfig

def inspect (c : LoggingConfig) : String :=
  "LoggingConfig \x7b default: " ++ Text.quoted c.default ++ ", modules: \x7b" ++
    Text.joined ", " (c.modules.toList.map fun (k, v) => Text.quoted k ++ ": " ++ Text.quoted v) ++
    "\x7d \x7d"

/-- The directives of the log filter: the level of all targets, then one override for each module
in the order of their names. -/
def directives (c : LoggingConfig) : String :=
  c.modules.toList.foldl (fun s (name, level) => s ++ "," ++ name ++ "=" ++ level) c.default

end LoggingConfig

namespace Settings

/-- The settings in words. -/
def inspect (s : Settings) : String :=
  "Settings \x7b version: " ++ Text.renderNat s.version.toNat ++ ", defaults: " ++
    s.defaults.inspect ++ ", scientific: ScientificConfig \x7b negative_sqrt: " ++
    s.scientific.negativeSqrt.inspect ++ " \x7d, logging: " ++ s.logging.inspect ++ " \x7d"

end Settings

end Abacus
