import Abacus.Dict

/-!
# TOML values

A value of the TOML data model. A table has its entries in key order; what the order of the lines
was no longer shows.
-/

namespace Abacus.Toml

/-- A TOML value. The entries of a table keep their order. -/
inductive Value where
  | string (s : String)
  | integer (n : Int64)
  | float (x : Float)
  | boolean (b : Bool)
  /-- A date, a time or both, in its normal form. -/
  | datetime (text : String)
  | array (items : List Value)
  | table (entries : List (String × Value))

namespace Value

instance : Inhabited Value := ⟨.table []⟩

end Value

/-- A character of a bare key. -/
def isBareKeyChar (c : Char) : Bool := c.isAlphanum || c = '_' || c = '-'

/-- A control that no string shows as itself: those below the space except tab and line feed, and
delete. -/
def isControl (c : Char) : Bool :=
  (c.toNat < 0x20 && c != '\t' && c != '\n') || c.toNat == 0x7F

end Abacus.Toml
