import Abacus.Settings.Toml
import Abacus.Toml.Value

/-!
# Layers of settings

Settings come in layers: the built-in defaults, a file, and the environment. A layer is a tree of
keys in which every place remembers where it comes from. Laying one over another merges the tables
key by key; any other value of the upper layer replaces the one below. A merged table counts as the
upper layer's, each value in it as its own layer's.
-/

namespace Abacus.Settings

/-- Where a value comes from. -/
inductive Source where
  | builtin
  /-- A file, by the path under which it is shown. -/
  | file (shown : String)
  | environment
  deriving DecidableEq, Repr

/-- A value without parts. Integers remember whether they were read with a sign, and texts whether
they were read as a single character. -/
inductive Leaf where
  | text (s : String)
  | character (c : Char)
  | bool (b : Bool)
  | signed (n : Int)
  | unsigned (n : Nat)
  | float (x : Float)

/-- A tree of values, each with the source that gave it. -/
inductive Layer where
  | leaf (source : Source) (value : Leaf)
  | list (source : Source) (items : List Layer)
  | table (source : Source) (entries : List (String × Layer))

namespace Layer

instance : Inhabited Layer := ⟨.table .builtin []⟩

def source : Layer → Source
  | leaf s _ | list s _ | table s _ => s

/-! ## Merging -/

mutual

/-- Lays a layer over another one. -/
def merge (lower : Layer) : Layer → Layer
  | .table s entries =>
    match lower with
    | .table _ below => .table s (mergeEntries below entries)
    | _ => .table s entries
  | upper => upper

/-- Lays entries over others, key by key. -/
def mergeEntries (below : List (String × Layer)) : List (String × Layer) → List (String × Layer)
  | [] => below
  | (k, v) :: rest =>
    let merged := match below.lookup k with
      | some lower => merge lower v
      | none => v
    mergeEntries (Entries.insert k merged below) rest

end

/-! ## The layer of a TOML document -/

/-- The key under which a date shows when it is looked at as a table. -/
def datetimeKey : String := "$__toml_private_datetime"

mutual

/-- The layer of a TOML value; a date is a table with its text under a key of its own. -/
def ofToml (s : Source) : Toml.Value → Layer
  | .string t => leaf s (.text t)
  | .integer n => leaf s (.signed n.toInt)
  | .float x => leaf s (.float x)
  | .boolean b => leaf s (.bool b)
  | .datetime t => table s [(datetimeKey, leaf s (.text t))]
  | .array items => list s (ofTomlItems s items)
  | .table entries => table s (ofTomlEntries s entries)

def ofTomlItems (s : Source) : List Toml.Value → List Layer
  | [] => []
  | v :: vs => ofToml s v :: ofTomlItems s vs

def ofTomlEntries (s : Source) : List (String × Toml.Value) → List (String × Layer)
  | [] => []
  | (k, v) :: rest => (k, ofToml s v) :: ofTomlEntries s rest

end

/-! ## The layer of settings -/

/-- Given settings as the lowest layer. -/
def ofSettings (s : Settings) : Layer :=
  let int (n : Int64) : Layer := leaf .builtin (.signed n.toInt)
  let text (t : String) : Layer := leaf .builtin (.text t)
  let group (entries : List (String × Layer)) : Layer := table .builtin (Entries.ofList entries)
  group [
    ("version", leaf .builtin (.unsigned s.version.toNat)),
    ("defaults", group [("initial_value", int s.defaults.initialValue),
      ("sum_seed", int s.defaults.sumSeed), ("product_seed", int s.defaults.productSeed)]),
    ("scientific", group [("negative_sqrt", text s.scientific.negativeSqrt.name)]),
    ("logging", group [("default", text s.logging.default),
      ("modules", group (s.logging.modules.toList.map fun (k, v) => (k, text v)))])]

end Layer

end Abacus.Settings
