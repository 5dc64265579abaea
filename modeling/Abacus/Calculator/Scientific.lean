import Abacus.Calculator.Basic

/-!
# The scientific calculator

A calculator with a memory register and square roots. The register is independent of the
accumulator: it changes when the current value is stored, when it is cleared and on a reset.
-/

namespace Abacus

/-- What a square root does with a negative accumulator. -/
inductive SqrtPolicy where
  /-- Reject it. -/
  | error
  /-- Answer with a NaN. -/
  | nan
  deriving DecidableEq, Repr, Inhabited

namespace SqrtPolicy

def name : SqrtPolicy → String
  | error => "error"
  | nan => "nan"

/-- The policy as it appears in descriptions of a state. -/
def inspect : SqrtPolicy → String
  | error => "Error"
  | nan => "Nan"

def all : List SqrtPolicy := [error, nan]

end SqrtPolicy

/-- Something that yields one computed result and can be reset. -/
class Computable (C : Type) where
  compute : C → Except CalcError Float
  reset : C → C

/-- A calculator with a memory register. -/
structure ScientificCalculator where
  base : Calculator := {}
  memory : Int64 := 0
  sqrtPolicy : SqrtPolicy := .error
  deriving DecidableEq, Repr, Inhabited

namespace ScientificCalculator

/-- A calculator with empty memory that rejects negative square roots. -/
def ofValue (initial : Int64) : ScientificCalculator := { base := ⟨initial⟩ }

/-- The same calculator under another policy; accumulator and memory stay. -/
def withSqrtPolicy (c : ScientificCalculator) (policy : SqrtPolicy) : ScientificCalculator :=
  { c with sqrtPolicy := policy }

/-- The accumulator. -/
def value (c : ScientificCalculator) : Int64 := c.base.value

/-- Stores the current value in memory. -/
def storeMemory (c : ScientificCalculator) : ScientificCalculator := { c with memory := c.value }

/-- The stored value. -/
def recallMemory (c : ScientificCalculator) : Int64 := c.memory

/-- Sets the memory to zero. -/
def clearMemory (c : ScientificCalculator) : ScientificCalculator := { c with memory := 0 }

def add (c : ScientificCalculator) (n : Int64) : ScientificCalculator :=
  { c with base := c.base.add n }

def subtract (c : ScientificCalculator) (n : Int64) : ScientificCalculator :=
  { c with base := c.base.subtract n }

def multiply (c : ScientificCalculator) (n : Int64) : ScientificCalculator :=
  { c with base := c.base.multiply n }

def divide (c : ScientificCalculator) (n : Int64) : Except CalcError Float := c.base.divide n

/-- Resets the accumulator, then clears the memory. -/
def reset (c : ScientificCalculator) : ScientificCalculator :=
  { c with base := c.base.reset }.clearMemory

/-- The square root of the current value; a negative value is handled by the policy. -/
def squareRoot (c : ScientificCalculator) : Except CalcError Float :=
  if c.value < 0 then
    match c.sqrtPolicy with
    | .error => .error (.negativeSquareRoot c.value)
    | .nan => .ok (0.0 / 0.0)
  else .ok (nearestDouble c.value).sqrt

instance : Arithmetic ScientificCalculator := ⟨add, subtract, multiply, divide, value, reset⟩

instance : Computable ScientificCalculator := ⟨squareRoot, reset⟩

/-- The state as JSON; the policy is no part of it. -/
def toJson (c : ScientificCalculator) : Json.Value :=
  .obj [("base", c.base.toJson), ("memory", .int64 c.memory)]

/-- The state in words. -/
def inspect (c : ScientificCalculator) : String :=
  "ScientificCalculator \x7b base: " ++ c.base.inspect ++ ", memory: " ++
    Text.renderInt64 c.memory ++ ", sqrt_policy: " ++ c.sqrtPolicy.inspect ++ " \x7d"

end ScientificCalculator

end Abacus
