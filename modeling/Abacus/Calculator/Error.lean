import Abacus.Text.Integer

/-!
# Rejected operations

A calculator rejects a division by zero and, unless told otherwise, the square root of a negative
value. A rejected operation never changes the calculator.
-/

namespace Abacus

/-- Broad classification of a rejected operation. -/
inductive ErrorKind where
  /-- The argument itself is unacceptable. -/
  | invalidArgument
  /-- The argument is fine, but the result is undefined over the reals. -/
  | domain
  deriving DecidableEq, Repr

namespace ErrorKind

def name : ErrorKind → String
  | invalidArgument => "invalid_argument"
  | domain => "domain"

end ErrorKind

/-- Why an operation was rejected. -/
inductive CalcError where
  | divisionByZero
  | negativeSquareRoot (value : Int64)
  deriving DecidableEq, Repr

namespace CalcError

def kind : CalcError → ErrorKind
  | divisionByZero => .invalidArgument
  | negativeSquareRoot _ => .domain

def message : CalcError → String
  | divisionByZero => "Division by zero"
  | negativeSquareRoot value =>
    "Square root of negative value " ++ Text.renderInt64 value ++ " is undefined"

/-- The name of the cause, without its value. -/
def name : CalcError → String
  | divisionByZero => "DivisionByZero"
  | negativeSquareRoot _ => "NegativeSquareRoot"

/-- The cause with its value. -/
def inspect : CalcError → String
  | divisionByZero => "DivisionByZero"
  | negativeSquareRoot value =>
    "NegativeSquareRoot \x7b value: " ++ Text.renderInt64 value ++ " \x7d"

end CalcError

end Abacus
