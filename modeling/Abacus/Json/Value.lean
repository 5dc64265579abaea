import Abacus.Dict

/-!
# JSON values

A value of the JSON data model. Numbers are kept apart by how they are written: an integer has
neither a point nor an exponent, a floating-point number always has one of them.

The fields of an object stand in the order in which they are written. Free data has its fields in
key order and without repetitions (`Value.object`), a record has them in the order of its
declaration.
-/

namespace Abacus.Json

/-- A JSON value. The fields of an object keep their order. -/
inductive Value where
  | null
  | bool (b : Bool)
  | int (n : Int)
  | float (x : Float)
  | str (s : String)
  | arr (items : List Value)
  | obj (fields : List (String × Value))

namespace Value

instance : Inhabited Value := ⟨.null⟩

/-- An object of free data: fields in key order, the last value of a repeated key kept. -/
def object (fields : List (String × Value)) : Value := .obj (Entries.ofList fields)

/-- An array of texts. -/
def strings (texts : List String) : Value := .arr (texts.map .str)

/-- A 64-bit integer. -/
def int64 (n : Int64) : Value := .int n.toInt

/-- A natural number. -/
def nat (n : Nat) : Value := .int n

/-- A value, or `null` in its absence. -/
def orNull : Option Value → Value
  | none => .null
  | some v => v

mutual

/-- How many arrays and objects are open around the innermost value. -/
def depth : Value → Nat
  | .arr items => depthItems items + 1
  | .obj fields => depthFields fields + 1
  | _ => 0

def depthItems : List Value → Nat
  | [] => 0
  | v :: vs => max (depth v) (depthItems vs)

def depthFields : List (String × Value) → Nat
  | [] => 0
  | (_, v) :: vs => max (depth v) (depthFields vs)

end

end Value

end Abacus.Json
