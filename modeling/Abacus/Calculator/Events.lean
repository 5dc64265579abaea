import Abacus.Calculator.Advanced
import Abacus.Calculator.Scientific
import Abacus.Log.Event

/-!
# What calculators report

Every change of an accumulator is reported with the operand and the value right after it, and so is
every rejected operation. The two richer kinds report on their own targets what they do beside the
arithmetic, after the report of the arithmetic itself.
-/

namespace Abacus

open Text (renderInt64)

namespace Calculator

/-- An event of the accumulator. -/
def event (level : Log.Level) (message : String) : Log.Event := ⟨level, "calculator", message⟩

/-- The change of an accumulator by an operation with operand `n`. -/
def changed (verb : String) (n after : Int64) : Log.Event :=
  event .debug (verb ++ " " ++ renderInt64 n ++ " -> " ++ renderInt64 after)

def addEvents (c : Calculator) (n : Int64) : List Log.Event := [changed "add" n (c.add n).value]

def subtractEvents (c : Calculator) (n : Int64) : List Log.Event :=
  [changed "subtract" n (c.subtract n).value]

def multiplyEvents (c : Calculator) (n : Int64) : List Log.Event :=
  [changed "multiply" n (c.multiply n).value]

/-- A division is reported only when it is rejected. -/
def divideEvents (c : Calculator) (n : Int64) : List Log.Event :=
  if n = 0 then [event .warn ("rejected division of " ++ renderInt64 c.value ++ " by zero")] else []

def resetEvents (_ : Calculator) : List Log.Event := [event .debug "reset"]

end Calculator

namespace ScientificCalculator

/-- An event of the memory or of a square root. -/
def event (level : Log.Level) (message : String) : Log.Event := ⟨level, "scientific", message⟩

def storeEvents (c : ScientificCalculator) : List Log.Event :=
  [event .debug ("stored " ++ renderInt64 c.value ++ " in memory")]

/-- A square root is reported only when it is rejected. -/
def squareRootEvents (c : ScientificCalculator) : List Log.Event :=
  match c.squareRoot with
  | .error _ => [event .warn ("rejected square root of " ++ renderInt64 c.value)]
  | .ok _ => []

end ScientificCalculator

namespace AdvancedCalculator

/-- The event of a log entry. -/
def logged (entry : String) : Log.Event := ⟨.debug, "advanced", "logged '" ++ entry ++ "'"⟩

def addEvents (c : AdvancedCalculator) (n : Int64) : List Log.Event :=
  c.base.addEvents n ++ [logged (addEntry n)]

def subtractEvents (c : AdvancedCalculator) (n : Int64) : List Log.Event :=
  c.base.subtractEvents n ++ [logged (subtractEntry n)]

end AdvancedCalculator

end Abacus
