import Abacus.Calculator.Basic
import Abacus.Text.Quoted

/-!
# The advanced calculator

A calculator that keeps a log of its additions and subtractions. The log only ever grows: nothing
else is entered, and a reset does not clear it.
-/

namespace Abacus

/-- A calculator with a log of operations. -/
structure AdvancedCalculator where
  base : Calculator := {}
  history : List String := []
  deriving DecidableEq, Repr, Inhabited

namespace AdvancedCalculator

/-- A calculator with an empty log. -/
def ofValue (initial : Int64) : AdvancedCalculator := { base := ⟨initial⟩ }

/-- The log entry of an addition. -/
def addEntry (n : Int64) : String := "add " ++ Text.renderInt64 n

/-- The log entry of a subtraction. -/
def subtractEntry (n : Int64) : String := "subtract " ++ Text.renderInt64 n

/-- The accumulator. -/
def value (c : AdvancedCalculator) : Int64 := c.base.value

/-- Enters an operation at the end of the log. -/
def log (c : AdvancedCalculator) (entry : String) : AdvancedCalculator :=
  { c with history := c.history ++ [entry] }

def add (c : AdvancedCalculator) (n : Int64) : AdvancedCalculator :=
  { c with base := c.base.add n }.log (addEntry n)

def subtract (c : AdvancedCalculator) (n : Int64) : AdvancedCalculator :=
  { c with base := c.base.subtract n }.log (subtractEntry n)

def multiply (c : AdvancedCalculator) (n : Int64) : AdvancedCalculator :=
  { c with base := c.base.multiply n }

def divide (c : AdvancedCalculator) (n : Int64) : Except CalcError Float := c.base.divide n

/-- Resets the accumulator and keeps the log. -/
def reset (c : AdvancedCalculator) : AdvancedCalculator := { c with base := c.base.reset }

instance : Arithmetic AdvancedCalculator := ⟨add, subtract, multiply, divide, value, reset⟩

/-- The state as JSON. -/
def toJson (c : AdvancedCalculator) : Json.Value :=
  .obj [("base", c.base.toJson), ("history", .strings c.history)]

/-- The state in words. -/
def inspect (c : AdvancedCalculator) : String :=
  "AdvancedCalculator \x7b base: " ++ c.base.inspect ++ ", history: " ++
    Text.quotedList c.history ++ " \x7d"

end AdvancedCalculator

end Abacus
