/-!
# Integers as decimal text

An integer is written as an optional sign and ASCII digits. Reading takes one optional `+` or `-`
and one or more ASCII digits; the digits are taken from left to right, so the first character
that is no digit, or that carries the number out of range, decides the error.
-/

namespace Abacus.Text

/-- Why a text is no integer of the wanted range. -/
inductive IntegerError where
  | empty
  | invalidDigit
  | tooLarge
  | tooSmall
  deriving DecidableEq, Repr

namespace IntegerError

/-- The reason in words. -/
def message : IntegerError → String
  | empty => "cannot parse integer from empty string"
  | invalidDigit => "invalid digit found in string"
  | tooLarge => "number too large to fit in target type"
  | tooSmall => "number too small to fit in target type"

end IntegerError

/-- The value of an ASCII digit. -/
def digit? (c : Char) : Option Nat :=
  if '0' ≤ c ∧ c ≤ '9' then some (c.toNat - '0'.toNat) else none

/-- The number written by the digits after those already read as `acc`, at most `limit`. -/
def readMagnitude (limit : Nat) (overflow : IntegerError) :
    Nat → List Char → Except IntegerError Nat
  | acc, [] => .ok acc
  | acc, c :: cs =>
    match digit? c with
    | none => .error .invalidDigit
    | some d =>
      if 10 * acc + d ≤ limit then readMagnitude limit overflow (10 * acc + d) cs
      else .error overflow

/-- Reads an integer from `-below` to `above`. -/
def readInteger (below above : Nat) : List Char → Except IntegerError Int
  | [] => .error .empty
  | ['+'] => .error .invalidDigit
  | ['-'] => .error .invalidDigit
  | '+' :: cs => (readMagnitude above .tooLarge 0 cs).map Int.ofNat
  | '-' :: cs => (readMagnitude below .tooSmall 0 cs).map fun n => -(n : Int)
  | cs => (readMagnitude above .tooLarge 0 cs).map Int.ofNat

/-- Reads a 64-bit signed integer. -/
def readInt64 (cs : List Char) : Except IntegerError Int64 :=
  (readInteger 0x8000000000000000 0x7FFFFFFFFFFFFFFF cs).map Int64.ofInt

/-- The decimal digits of a natural number, without leading zeros. -/
def natDigits (n : Nat) : List Char := Nat.toDigits 10 n

/-- The decimal text of a natural number. -/
def renderNat (n : Nat) : String := String.ofList (natDigits n)

/-- The decimal text of an integer: a minus sign below zero, no sign otherwise. -/
def renderInt : Int → String
  | .ofNat n => renderNat n
  | .negSucc n => "-" ++ renderNat (n + 1)

/-- The decimal text of a 64-bit signed integer. -/
def renderInt64 (n : Int64) : String := renderInt n.toInt

/-- The digit of base sixteen, in small letters. -/
def hexDigit (n : Nat) : Char := Nat.digitChar (n % 16)

/-- The number written in base sixteen with small letters and without leading zeros. -/
def renderHex (n : Nat) : String := String.ofList (Nat.toDigits 16 n)

/-- The value of a digit of base sixteen, in small or capital letters. -/
def hexValue? (c : Char) : Option Nat :=
  if '0' ≤ c ∧ c ≤ '9' then some (c.toNat - '0'.toNat)
  else if 'a' ≤ c ∧ c ≤ 'f' then some (c.toNat - 'a'.toNat + 10)
  else if 'A' ≤ c ∧ c ≤ 'F' then some (c.toNat - 'A'.toNat + 10)
  else none

end Abacus.Text
