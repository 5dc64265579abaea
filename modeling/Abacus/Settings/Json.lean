import Abacus.Json.Record
import Abacus.Settings.Basic

/-!
# Settings as JSON

Written in the order of declaration. Read from an object with any of the fields in any order, or
from an array of the first few. Each reader has defaults of its own for the fields that are missing.
-/

namespace Abacus

open Json (Reader Shape)

namespace SqrtPolicy

def variants : List (String × SqrtPolicy) := [("error", error), ("nan", nan)]

end SqrtPolicy

namespace DefaultsConfig

def toJson (c : DefaultsConfig) : Json.Value :=
  .obj [("initial_value", .int64 c.initialValue), ("sum_seed", .int64 c.sumSeed),
    ("product_seed", .int64 c.productSeed)]

def shape : Shape where
  name := "DefaultsConfig"
  fields := [⟨"initial_value", Reader.check Reader.int64⟩,
    ⟨"sum_seed", Reader.check Reader.int64⟩,
    ⟨"product_seed", Reader.check Reader.int64⟩]
  defaults := true

def read : Reader DefaultsConfig := fun d => do
  let values ← shape.read d
  return {
    initialValue := ← values.getD "initial_value" Reader.int64 0
    sumSeed := ← values.getD "sum_seed" Reader.int64 Aggregate.sumSeed
    productSeed := ← values.getD "product_seed" Reader.int64 Aggregate.productSeed }

end DefaultsConfig

namespace ScientificConfig

def toJson (c : ScientificConfig) : Json.Value :=
  .obj [("negative_sqrt", .str c.negativeSqrt.name)]

def shape : Shape where
  name := "ScientificConfig"
  fields := [⟨"negative_sqrt", Reader.check (Reader.variant SqrtPolicy.variants)⟩]
  defaults := true

def read : Reader ScientificConfig := fun d => do
  let values ← shape.read d
  return {
    negativeSqrt := ← values.getD "negative_sqrt" (Reader.variant SqrtPolicy.variants) .error }

end ScientificConfig

namespace LoggingConfig

def toJson (c : LoggingConfig) : Json.Value :=
  .obj [("default", .str c.default),
    ("modules", .obj (c.modules.toList.map fun (k, v) => (k, .str v)))]

def shape : Shape where
  name := "LoggingConfig"
  fields := [⟨"default", Reader.check Reader.text⟩, ⟨"modules", Reader.check Reader.textMap⟩]
  defaults := true

def read : Reader LoggingConfig := fun d => do
  let values ← shape.read d
  return {
    default := ← values.getD "default" Reader.text "warn"
    modules := ← values.getD "modules" Reader.textMap .empty }

end LoggingConfig

namespace Settings

def toJson (s : Settings) : Json.Value :=
  .obj [("version", .nat s.version.toNat), ("defaults", s.defaults.toJson),
    ("scientific", s.scientific.toJson), ("logging", s.logging.toJson)]

def shape : Shape where
  name := "Settings"
  fields := [⟨"version", Reader.check Reader.uint32⟩,
    ⟨"defaults", Reader.check DefaultsConfig.read⟩,
    ⟨"scientific", Reader.check ScientificConfig.read⟩,
    ⟨"logging", Reader.check LoggingConfig.read⟩]
  defaults := true

def read : Reader Settings := fun d => do
  let values ← shape.read d
  return {
    version := ← values.getD "version" Reader.uint32 1
    defaults := ← values.getD "defaults" DefaultsConfig.read {}
    scientific := ← values.getD "scientific" ScientificConfig.read {}
    logging := ← values.getD "logging" LoggingConfig.read {} }

end Settings

end Abacus
