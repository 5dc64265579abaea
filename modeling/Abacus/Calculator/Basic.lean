import Abacus.Calculator.Error
import Abacus.Json.Value

/-!
# The calculator

A calculator holds one accumulator of 64 bits. Addition, subtraction and multiplication wrap around
in two's complement, so they are total; division converts both numbers to floating point and leaves
the accumulator alone.

`Arithmetic` is what every kind of calculator can do. The kinds in `Calculator.Scientific` and
`Calculator.Advanced` contain a `Calculator`, hand the arithmetic to it and keep their own records
afterwards.
-/

namespace Abacus

/-- What every kind of calculator can do. -/
class Arithmetic (C : Type) where
  add : C → Int64 → C
  subtract : C → Int64 → C
  multiply : C → Int64 → C
  /-- The quotient by `n`; the calculator keeps its state. -/
  divide : C → Int64 → Except CalcError Float
  value : C → Int64
  /-- Back to zero; a kind may clear more than the accumulator. -/
  reset : C → C

/-- The double nearest to an integer; of two equally near ones that with an even significand. -/
def nearestDouble (n : Int64) : Float := .ofModel (.ofInt64 n)

/-- One integer accumulator. -/
structure Calculator where
  value : Int64 := 0
  deriving DecidableEq, Repr, Inhabited

namespace Calculator

/-- Adds modulo 2^64. -/
def add (c : Calculator) (n : Int64) : Calculator := ⟨c.value + n⟩

/-- Subtracts modulo 2^64. -/
def subtract (c : Calculator) (n : Int64) : Calculator := ⟨c.value - n⟩

/-- Multiplies modulo 2^64. -/
def multiply (c : Calculator) (n : Int64) : Calculator := ⟨c.value * n⟩

/-- The quotient as floating point, or an error when `n` is zero. -/
def divide (c : Calculator) (n : Int64) : Except CalcError Float :=
  if n = 0 then .error .divisionByZero else .ok (nearestDouble c.value / nearestDouble n)

/-- Sets the accumulator to zero. -/
def reset (_ : Calculator) : Calculator := ⟨0⟩

instance : Arithmetic Calculator := ⟨add, subtract, multiply, divide, value, reset⟩

/-- The state as JSON. -/
def toJson (c : Calculator) : Json.Value := .obj [("value", .int64 c.value)]

/-- The state in words. -/
def inspect (c : Calculator) : String :=
  "Calculator \x7b value: " ++ Text.renderInt64 c.value ++ " \x7d"

end Calculator

end Abacus
