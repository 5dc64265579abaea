import Abacus.Decimal.Layout
import Abacus.Json.Draft
import Abacus.Text.Quoted

/-!
# Typed values from JSON

Readers that take a draft from left to right and report the first fault. A fault is either in the
text itself (`malformed`) or in a value that is JSON but not what is wanted there.

A record is an object whose fields have names, in any order, with unknown fields left aside; or an
array of its fields in the order of declaration. `Shape` describes a record: every field with a
check of its values. A record that takes the defaults of missing fields also takes an array that
stops early.
-/

namespace Abacus.Json

/-- A value that is not what is wanted, as it is shown. -/
inductive Found where
  | null
  | bool (b : Bool)
  | integer (n : Int)
  | float (x : Float)
  | text (s : String)
  | sequence
  | map

namespace Found

def describe : Found → String
  | null => "null"
  | bool true => "boolean `true`"
  | bool false => "boolean `false`"
  | integer n => "integer `" ++ Text.renderInt n ++ "`"
  | float x => "floating point `" ++ Decimal.Layout.fractional.render x ++ "`"
  | text s => "string " ++ Text.quoted s
  | sequence => "sequence"
  | map => "map"

end Found

/-- Why a text is not read as the wanted type. -/
inductive DecodeError where
  /-- The text is not JSON up to here, or not usable as such. -/
  | malformed
  | invalidType (found : Found) (expected : String)
  | invalidValue (found : Found) (expected : String)
  | invalidLength (length : Nat) (expected : String)
  | unknownVariant (name : String) (expected : List String)
  | missingField (name : String)
  | duplicateField (name : String)

/-- The names to choose from: two with `or`, more as a list. -/
def alternatives (names : List String) : String :=
  match names.map fun n => "`" ++ n ++ "`" with
  | [a, b] => a ++ " or " ++ b
  | [a] => a
  | quoted => "one of " ++ Text.joined ", " quoted

namespace DecodeError

/-- The fault in words; a fault of the text itself has none here. -/
def message? : DecodeError → Option String
  | malformed => none
  | invalidType found expected =>
    some ("invalid type: " ++ found.describe ++ ", expected " ++ expected)
  | invalidValue found expected =>
    some ("invalid value: " ++ found.describe ++ ", expected " ++ expected)
  | invalidLength length expected =>
    some ("invalid length " ++ Text.renderNat length ++ ", expected " ++ expected)
  | unknownVariant name expected =>
    some ("unknown variant `" ++ name ++ "`, expected " ++ alternatives expected)
  | missingField name => some ("missing field `" ++ name ++ "`")
  | duplicateField name => some ("duplicate field `" ++ name ++ "`")

end DecodeError

/-- A reader of values of one type. -/
abbrev Reader (α : Type) := Draft → Except DecodeError α

namespace Reader

/-- The fault of a value that has the wrong type. -/
def mismatch (expected : String) : Draft → DecodeError
  | .broken | .unbounded | .unpaired => .malformed
  | .null => .invalidType .null expected
  | .bool b => .invalidType (.bool b) expected
  | .int n => .invalidType (.integer n) expected
  | .float x => .invalidType (.float x) expected
  | .str s => .invalidType (.text s) expected
  | .arr .. => .invalidType .sequence expected
  | .obj .. => .invalidType .map expected

/-- An integer from `least` to `greatest`. -/
def integer (expected : String) (least greatest : Int) : Reader Int
  | .int n =>
    if least ≤ n ∧ n ≤ greatest then .ok n else .error (.invalidValue (.integer n) expected)
  | d => .error (mismatch expected d)

def int64 : Reader Int64 := fun d =>
  (integer "i64" (-0x8000000000000000) 0x7FFFFFFFFFFFFFFF d).map Int64.ofInt

def uint32 : Reader UInt32 := fun d =>
  (integer "u32" 0 0xFFFFFFFF d).map fun n => n.toNat.toUInt32

def uint8 : Reader UInt8 := fun d =>
  (integer "u8" 0 0xFF d).map fun n => n.toNat.toUInt8

/-- A count of 64 bits. -/
def size : Reader UInt64 := fun d =>
  (integer "usize" 0 0xFFFFFFFFFFFFFFFF d).map fun n => n.toNat.toUInt64

/-- A number from one up. -/
def positive : Reader UInt32 := fun d =>
  (integer "a nonzero u32" 1 0xFFFFFFFF d).map fun n => n.toNat.toUInt32

def text : Reader String
  | .str s => .ok s
  | d => .error (mismatch "a string" d)

/-- A value, or nothing for `null`. -/
def optional {α : Type} (read : Reader α) : Reader (Option α)
  | .null => .ok none
  | d => (read d).map some

/-- One of the named variants. -/
def named {α : Type} (variants : List (String × α)) (name : String) : Except DecodeError α :=
  match variants.lookup name with
  | some v => .ok v
  | none => .error (.unknownVariant name (variants.map (·.1)))

/-- A variant by its name alone, or as an object with the name as its only key and `null` as value.
Anything else in its place is no fault of type but one of the text. -/
def variant {α : Type} (variants : List (String × α)) : Reader α
  | .str s => named variants s
  | .obj [(.str s, d)] closed => do
    let v ← named variants s
    match d with
    | .null => if closed then .ok v else .error .malformed
    | d => .error (mismatch "unit" d)
  | .obj ((.str s, d) :: _ :: _) _ => do
    let _ ← named variants s
    match d with
    | .null => .error .malformed
    | d => .error (mismatch "unit" d)
  | .obj ((key, _) :: _) _ => .error (mismatch "variant identifier" key)
  | _ => .error .malformed

/-- Any value with at most `depth` arrays and objects open at once. -/
def anything (depth : Nat) : Reader Value := fun d =>
  match d.value? depth with
  | some v => .ok v
  | none => .error .malformed

/-- The entries of a map of texts; of repeated keys the last one wins. -/
def textEntries (closed : Bool) : List (Draft × Draft) → Except DecodeError (List (String × String))
  | [] => if closed then .ok [] else .error .malformed
  | (.str key, d) :: rest => do
    let value ← text d
    let entries ← textEntries closed rest
    return (key, value) :: entries
  | _ => .error .malformed

/-- A map of texts. -/
def textMap : Reader (Dict String)
  | .obj fields closed => (textEntries closed fields).map Dict.ofList
  | d => .error (mismatch "a map" d)

/-- The check of a reader, without its value. -/
def check {α : Type} (read : Reader α) (d : Draft) : Except DecodeError Unit :=
  (read d).map fun _ => ()

end Reader

/-! ## Records -/

/-- A field of a record with the check of its values. -/
structure Field where
  name : String
  check : Draft → Except DecodeError Unit

/-- A record: its name, its fields in order, and whether missing fields take defaults. -/
structure Shape where
  name : String
  fields : List Field
  defaults : Bool

namespace Shape

/-- The values of a record by the names of its fields. -/
abbrev Values := List (String × Draft)

/-- The record in the words of a fault. -/
def describe (s : Shape) : String := "struct " ++ s.name

/-- The array form in the words of a fault. -/
def describeLength (s : Shape) : String :=
  let n := s.fields.length
  s.describe ++ " with " ++ Text.renderNat n ++ (if n = 1 then " element" else " elements")

/-- Takes the fields of an object in turn. A name that was taken before is a fault as soon as it is
read again; an unknown name only has to be followed by a value. -/
def readFields (s : Shape) (closed : Bool) (taken : Values) :
    List (Draft × Draft) → Except DecodeError Values
  | [] => if closed then .ok taken else .error .malformed
  | (.str key, d) :: rest =>
    match s.fields.find? (·.name = key) with
    | none => if d.intact then readFields s closed taken rest else .error .malformed
    | some field =>
      if (taken.lookup key).isSome then .error (.duplicateField key)
      else do
        field.check d
        readFields s closed (taken ++ [(key, d)]) rest
  | _ => .error .malformed

/-- Takes the items of an array as the fields in order. -/
def readItems (s : Shape) (closed : Bool) (taken : Values) :
    List Field → List Draft → Except DecodeError Values
  | [], [] => if closed then .ok taken else .error .malformed
  | [], _ :: _ => .error .malformed
  | _ :: _, [] =>
    if !closed then .error .malformed
    else if s.defaults then .ok taken
    else .error (.invalidLength taken.length s.describeLength)
  | field :: fields, d :: rest => do
    field.check d
    readItems s closed (taken ++ [(field.name, d)]) fields rest

/-- The checked values of a record. -/
def read (s : Shape) : Reader Values
  | .obj fields closed => s.readFields closed [] fields
  | .arr items closed => s.readItems closed [] s.fields items
  | d => .error (Reader.mismatch s.describe d)

namespace Values

/-- The value of a field, or its default if the field is missing. -/
def getD {α : Type} (values : Values) (name : String) (read : Reader α) (default : α) :
    Except DecodeError α :=
  match values.lookup name with
  | some d => read d
  | none => .ok default

/-- The value of a field, which must not be missing. -/
def get {α : Type} (values : Values) (name : String) (read : Reader α) : Except DecodeError α :=
  match values.lookup name with
  | some d => read d
  | none => .error (.missingField name)

end Values

end Shape

/-- Reads a whole text as one value of a type. -/
def decode {α : Type} (read : Reader α) (s : String) : Except DecodeError α := do
  let doc := Document.read s
  let v ← read doc.draft
  if doc.ended then .ok v else .error .malformed

end Abacus.Json
