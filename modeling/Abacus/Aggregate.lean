import Abacus.Calculator.Events

/-!
# Sums and products

Folding a list of numbers onto a seed with a fresh calculator. Like the calculator's own operations
the folds wrap around, so the order of the numbers does not matter and the result is exact whenever
it fits.
-/

namespace Abacus.Aggregate

/-- The seed of a sum when none is given. -/
def sumSeed : Int64 := 0

/-- The seed of a product when none is given. -/
def productSeed : Int64 := 1

/-- The calculator after adding each of the numbers in turn. -/
def addAll (c : Calculator) (numbers : List Int64) : Calculator := numbers.foldl Calculator.add c

/-- The calculator after multiplying by each of the numbers in turn. -/
def multiplyAll (c : Calculator) (numbers : List Int64) : Calculator :=
  numbers.foldl Calculator.multiply c

/-- The seed plus all the numbers. -/
def sum (numbers : List Int64) (initial : Option Int64) : Int64 :=
  (addAll ⟨initial.getD sumSeed⟩ numbers).value

/-- The seed times all the numbers. -/
def product (numbers : List Int64) (initial : Option Int64) : Int64 :=
  (multiplyAll ⟨initial.getD productSeed⟩ numbers).value

/-- What is reported while adding each of the numbers in turn. -/
def addAllEvents (c : Calculator) : List Int64 → List Log.Event
  | [] => []
  | n :: rest => c.addEvents n ++ addAllEvents (c.add n) rest

/-- What is reported while multiplying by each of the numbers in turn. -/
def multiplyAllEvents (c : Calculator) : List Int64 → List Log.Event
  | [] => []
  | n :: rest => c.multiplyEvents n ++ multiplyAllEvents (c.multiply n) rest

end Abacus.Aggregate
