import Abacus.Decimal.Layout
import Abacus.Settings.Layer
import Abacus.Text.Quoted

/-!
# Settings from layers

The merged layers are read as settings. The keys of a table are taken in their order, unknown ones
are left aside, and the first value that its field cannot hold is the fault: it is blamed on the
key and on the layer that holds the value.

A group may be given as a list of its values in the order of declaration; what the list lacks takes
its default.
-/

namespace Abacus.Settings

/-- A value that a field cannot hold, as it is shown. -/
inductive Actual where
  | text (s : String)
  | bool (b : Bool)
  | signed (n : Int)
  | unsigned (n : Nat)
  | float (x : Float)
  | sequence
  | map

namespace Actual

def describe : Actual → String
  | text s => "string " ++ Text.quoted s
  | bool b => "bool " ++ (if b then "true" else "false")
  | signed n => "signed int `" ++ Text.renderInt n ++ "`"
  | unsigned n => "unsigned int `" ++ Text.renderNat n ++ "`"
  | float x => "float `" ++ Decimal.Layout.plain.render x ++ "`"
  | sequence => "sequence"
  | map => "map"

/-- What a layer shows as; a single character is a text. -/
def ofLayer : Layer → Actual
  | .leaf _ (.text s) => text s
  | .leaf _ (.character c) => text (String.singleton c)
  | .leaf _ (.bool b) => bool b
  | .leaf _ (.signed n) => signed n
  | .leaf _ (.unsigned n) => unsigned n
  | .leaf _ (.float x) => float x
  | .list .. => sequence
  | .table .. => map

end Actual

/-- Why a value is not what its field wants. -/
inductive FaultKind where
  | invalidType (actual : Actual) (expected : String)
  | invalidValue (actual : Actual) (expected : String)
  | unknownVariant (name : String) (expected : List String)

/-- A fault with its place. -/
structure Fault where
  kind : FaultKind
  path : List String
  source : Source

namespace FaultKind

/-- The name of the kind. -/
def name : FaultKind → String
  | invalidType .. => "InvalidType"
  | invalidValue .. => "InvalidValue"
  | unknownVariant .. => "UnknownVariant"

def describe : FaultKind → String
  | invalidType actual expected =>
    "invalid type: found " ++ actual.describe ++ ", expected " ++ expected
  | invalidValue actual expected =>
    "invalid value " ++ actual.describe ++ ", expected " ++ expected
  | unknownVariant name expected =>
    "unknown variant: found `" ++ name ++ "`, expected `" ++
      Text.joined " or " (expected.map fun n => "`" ++ n ++ "`") ++ "`"

end FaultKind

namespace Fault

/-- The fault seen from one level up. -/
def under (key : String) (f : Fault) : Fault := { f with path := key :: f.path }

/-- The key that is blamed: variables have capital names, files start at the default profile. -/
def key (f : Fault) : String :=
  match f.source with
  | .environment =>
    Text.joined "." (f.path.map fun k => String.ofList (Text.upperAscii k.toList))
  | _ => Text.joined "." ("default" :: f.path)

def describeSource : Source → String
  | .builtin => ""
  | .file shown => " in " ++ shown ++ " TOML file"
  | .environment => " in `CALC_` environment variable(s)"

def message (f : Fault) : String :=
  f.kind.describe ++ " for key " ++ Text.quoted f.key ++ describeSource f.source

end Fault

/-- A reader of one value of a layer. -/
abbrev Extractor (α : Type) := Layer → Except Fault α

namespace Extractor

/-- The fault of a layer that has the wrong type. -/
def mismatch (expected : String) (l : Layer) : Fault :=
  ⟨.invalidType (.ofLayer l) expected, [], l.source⟩

/-- An integer from `least` to `greatest`. -/
def integer (expected : String) (least greatest : Int) : Extractor Int := fun l =>
  let within (n : Int) : Except Fault Int :=
    if least ≤ n ∧ n ≤ greatest then .ok n
    else .error ⟨.invalidValue (.ofLayer l) expected, [], l.source⟩
  match l with
  | .leaf _ (.signed n) => within n
  | .leaf _ (.unsigned n) => within n
  | l => .error (mismatch expected l)

def uint32 : Extractor UInt32 := fun l =>
  (integer "u32" 0 0xFFFFFFFF l).map fun n => n.toNat.toUInt32

def int64 : Extractor Int64 := fun l =>
  (integer "i64" (-0x8000000000000000) 0x7FFFFFFFFFFFFFFF l).map Int64.ofInt

def text : Extractor String
  | .leaf _ (.text s) => .ok s
  | .leaf _ (.character c) => .ok (String.singleton c)
  | l => .error (mismatch "a string" l)

/-- The policy of a name. -/
def policyOfName (source : Source) (name : String) : Except Fault SqrtPolicy :=
  match SqrtPolicy.all.find? (·.name = name) with
  | some p => .ok p
  | none => .error ⟨.unknownVariant name (SqrtPolicy.all.map (·.name)), [], source⟩

/-- A policy by its name. A table in its place is taken for the name of a policy with a value of
its own, which no policy has. -/
def policy : Extractor SqrtPolicy
  | .leaf s (.text name) => policyOfName s name
  | .table s [] => .error (mismatch "enum" (.table s []))
  | .table s ((name, v) :: _) => do
    let _ ← policyOfName s name
    .error ((mismatch "unit" v).under name)
  | l => .error (mismatch "enum SqrtPolicy" l)

/-- Reads entries in turn, each as a text. -/
def textEntries : List (String × Layer) → Except Fault (List (String × String))
  | [] => .ok []
  | (k, v) :: rest => do
    let t ← (text v).mapError (Fault.under k)
    let ts ← textEntries rest
    return (k, t) :: ts

/-- A table of texts. -/
def textMap : Extractor (Dict String)
  | .table _ entries => (textEntries entries).map Dict.ofList
  | l => .error (mismatch "a map" l)

/-! ## Groups -/

/-- How the values of a group are put into it: one writer for each key, in the order of
declaration. -/
abbrev Writers (α : Type) := List (String × (α → Layer → Except Fault α))

/-- A writer from a reader. -/
def writing {α β : Type} (read : Extractor β) (set : α → β → α) : α → Layer → Except Fault α :=
  fun a l => (read l).map (set a)

/-- Takes the known keys of a table in turn. -/
def takeEntries {α : Type} (writers : Writers α) (a : α) :
    List (String × Layer) → Except Fault α
  | [] => .ok a
  | (k, v) :: rest =>
    match writers.lookup k with
    | none => takeEntries writers a rest
    | some write => do
      let a ← (write a v).mapError (Fault.under k)
      takeEntries writers a rest

/-- Takes the items of a list as the values in order; `place` is the number of the next one. -/
def takeItems {α : Type} (place : Nat) (a : α) :
    Writers α → List Layer → Except Fault α
  | (_, write) :: writers, v :: rest => do
    let a ← (write a v).mapError (Fault.under (Text.renderNat place))
    takeItems (place + 1) a writers rest
  | _, _ => .ok a

/-- A group, which starts out with its defaults. -/
def group {α : Type} (name : String) (writers : Writers α) (absent : α) : Extractor α
  | .table _ entries => takeEntries writers absent entries
  | .list _ items => takeItems 0 absent writers items
  | l => .error (mismatch ("struct " ++ name) l)

def defaultsWriters : Writers DefaultsConfig := [
  ("initial_value", writing int64 fun c n => { c with initialValue := n }),
  ("sum_seed", writing int64 fun c n => { c with sumSeed := n }),
  ("product_seed", writing int64 fun c n => { c with productSeed := n })]

def defaults : Extractor DefaultsConfig := group "DefaultsConfig" defaultsWriters {}

def scientificWriters : Writers ScientificConfig := [
  ("negative_sqrt", writing policy fun c p => { c with negativeSqrt := p })]

def scientific : Extractor ScientificConfig := group "ScientificConfig" scientificWriters {}

def loggingWriters : Writers LoggingConfig := [
  ("default", writing text fun c s => { c with default := s }),
  ("modules", writing textMap fun c m => { c with modules := m })]

def logging : Extractor LoggingConfig := group "LoggingConfig" loggingWriters {}

def settingsWriters : Writers Settings := [
  ("version", writing uint32 fun s n => { s with version := n }),
  ("defaults", writing defaults fun s c => { s with defaults := c }),
  ("scientific", writing scientific fun s c => { s with scientific := c }),
  ("logging", writing logging fun s c => { s with logging := c })]

/-- The settings of merged layers. -/
def settings : Extractor Settings := group "Settings" settingsWriters {}

end Extractor

end Abacus.Settings
