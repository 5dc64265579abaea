import Abacus.Calculator.Events

/-!
# The demonstration and the self-check

The demonstration uses every kind of calculator once and shows what can be seen of them. The
self-check adds one to a fresh calculator and expects one.
-/

namespace Abacus

/-- What the demonstration shows: one result of each kind of calculator. -/
structure DemoReport where
  result : Int64
  scientificMemory : Int64
  history : List String
  deriving DecidableEq, Repr

namespace DemoReport

/-- The result on one line and the history on the next. -/
def lines (r : DemoReport) : List String :=
  ["Result: " ++ Text.renderInt64 r.result, Text.quotedList r.history]

def toJson (r : DemoReport) : Json.Value :=
  .obj [("result", .int64 r.result), ("scientific_memory", .int64 r.scientificMemory),
    ("history", .strings r.history)]

end DemoReport

namespace Demo

def calculator : Calculator := (Calculator.add ⟨10⟩ 5).multiply 2

def scientific : ScientificCalculator := ((ScientificCalculator.ofValue 100).add 50).storeMemory

def advanced : AdvancedCalculator := (AdvancedCalculator.ofValue 200).add 100

def report : DemoReport := ⟨calculator.value, scientific.recallMemory, advanced.history⟩

/-- What is reported during the demonstration. -/
def events : List Log.Event :=
  Calculator.addEvents ⟨10⟩ 5 ++ (Calculator.add ⟨10⟩ 5).multiplyEvents 2 ++
    Calculator.addEvents ⟨100⟩ 50 ++
    ((ScientificCalculator.ofValue 100).add 50).storeEvents ++
    (AdvancedCalculator.ofValue 200).addEvents 100

end Demo

/-- The value that the self-check wants and the one that it computed. -/
structure SelfCheck where
  expected : Int64
  actual : Int64
  deriving DecidableEq, Repr

namespace SelfCheck

/-- Whether the computed value is the wanted one. -/
def passed (c : SelfCheck) : Bool := c.expected = c.actual

def toJson (c : SelfCheck) : Json.Value :=
  .obj [("expected", .int64 c.expected), ("actual", .int64 c.actual)]

def failureMessage (c : SelfCheck) : String :=
  "Self-check failed: expected " ++ Text.renderInt64 c.expected ++ ", got " ++
    Text.renderInt64 c.actual

/-- A fresh calculator plus one must be one. -/
def run : SelfCheck := ⟨1, (Calculator.add {} 1).value⟩

def events : List Log.Event := Calculator.addEvents {} 1

end SelfCheck

end Abacus
