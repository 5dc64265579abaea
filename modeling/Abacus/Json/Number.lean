import Abacus.Text.Integer

/-!
# Reading JSON numbers

A number without point and exponent is an integer if it fits into 64 bits, signed or unsigned;
minus zero and every other number is floating point.

The value of a floating-point number is taken from the leading digits that fit into 64 bits and
one power of ten: the digits as a double, multiplied or divided by the power as a double. The
result is rounded twice and can be the neighbour of the nearest double. A number beyond the
greatest double is `unbounded`.
-/

namespace Abacus.Json

open Abacus.Text

/-- A number as it is kept: an integer of 64 bits if it is written as one and fits, else a double,
unless it is beyond the greatest. -/
inductive Number where
  | int (n : Int)
  | float (x : Float)
  | unbounded

/-! ## The grammar -/

/-- A number as it is written. -/
structure Literal where
  negative : Bool
  /-- The digits before the point. -/
  whole : List Nat
  /-- The digits behind the point; there is no point if there are none. -/
  fraction : List Nat
  exponent : Option (Bool × List Nat)

/-- The digits at the start of a text and what follows them. -/
def digitRun : List Char → List Nat × List Char
  | [] => ([], [])
  | c :: cs =>
    match digit? c with
    | some d => let (ds, rest) := digitRun cs; (d :: ds, rest)
    | none => ([], c :: cs)

/-- The digits before the point: at least one, and none behind a leading zero. -/
def wholePart (cs : List Char) : Option (List Nat × List Char) :=
  match digitRun cs with
  | ([], _) => none
  | (0 :: _ :: _, _) => none
  | r => some r

/-- The digits behind the point, if there is a point. -/
def fractionPart : List Char → Option (List Nat × List Char)
  | '.' :: cs =>
    match digitRun cs with
    | ([], _) => none
    | r => some r
  | cs => some ([], cs)

/-- The sign and the digits of an exponent. -/
def exponentDigits (cs : List Char) : Option ((Bool × List Nat) × List Char) :=
  let (negative, cs) := match cs with
    | '+' :: cs => (false, cs)
    | '-' :: cs => (true, cs)
    | cs => (false, cs)
  match digitRun cs with
  | ([], _) => none
  | (ds, rest) => some ((negative, ds), rest)

/-- The exponent, if there is one. -/
def exponentPart : List Char → Option (Option (Bool × List Nat) × List Char)
  | 'e' :: cs | 'E' :: cs => (exponentDigits cs).map fun (e, rest) => (some e, rest)
  | cs => some (none, cs)

/-- A number behind its sign. -/
def unsignedLiteral (negative : Bool) (cs : List Char) : Option (Literal × List Char) := do
  let (whole, cs) ← wholePart cs
  let (fraction, cs) ← fractionPart cs
  let (exponent, cs) ← exponentPart cs
  return (⟨negative, whole, fraction, exponent⟩, cs)

/-- A number at the start of a text and what follows it. -/
def literal : List Char → Option (Literal × List Char)
  | '-' :: cs => unsignedLiteral true cs
  | cs => unsignedLiteral false cs

/-! ## The value -/

/-- The number written by digits. -/
def ofDigits (ds : List Nat) : Nat := ds.foldl (fun n d => 10 * n + d) 0

/-- Digits taken into 64 bits and the power of ten that goes with them. -/
structure Scaled where
  significand : Nat := 0
  exponent : Int := 0

namespace Scaled

/-- Takes digits before the point. From the first one that does not fit, each counts as a factor of
ten instead. -/
def takeWhole (s : Scaled) : List Nat → Scaled
  | [] => s
  | d :: ds =>
    if 10 * s.significand + d < 0x10000000000000000 then
      takeWhole { s with significand := 10 * s.significand + d } ds
    else { s with exponent := s.exponent + (ds.length + 1) }

/-- Takes digits behind the point up to the first one that does not fit. -/
def takeFraction (s : Scaled) : List Nat → Scaled
  | [] => s
  | d :: ds =>
    if 10 * s.significand + d < 0x10000000000000000 then
      takeFraction ⟨10 * s.significand + d, s.exponent - 1⟩ ds
    else s

/-- The power of ten as a double. -/
def powerOfTen (n : Nat) : Float := Float.ofScientific 1 false n

/-- Divides by the greatest power of ten until what is left of the exponent is in reach; zero is
reached in a few rounds. -/
def divided (x : Float) (n : Nat) : Nat → Float
  | 0 => x
  | fuel + 1 =>
    if n ≤ 308 then x / powerOfTen n
    else if x == 0 then x
    else divided (x / powerOfTen 308) (n - 308) fuel

/-- The magnitude, unless it is beyond the greatest double. -/
def magnitude? (s : Scaled) : Option Float :=
  let x := s.significand.toUInt64.toFloat
  if s.exponent < 0 then some (divided x s.exponent.natAbs 4)
  else if s.exponent ≤ 308 then
    let y := x * powerOfTen s.exponent.toNat
    if y.isInf then none else some y
  else if s.significand = 0 then some 0 else none

end Scaled

namespace Literal

/-- The digits and the power of ten of the whole literal. -/
def scaled (l : Literal) : Scaled :=
  let s := (({} : Scaled).takeWhole l.whole).takeFraction l.fraction
  match l.exponent with
  | none => s
  | some (true, ds) => { s with exponent := s.exponent - ofDigits ds }
  | some (false, ds) => { s with exponent := s.exponent + ofDigits ds }

/-- The value as floating point. -/
def float (l : Literal) : Number :=
  match l.scaled.magnitude? with
  | none => .unbounded
  | some x => .float (if l.negative then -x else x)

/-- The value of a literal. -/
def number (l : Literal) : Number :=
  if l.fraction = [] ∧ l.exponent = none then
    let n := ofDigits l.whole
    if l.negative then
      if 0 < n ∧ n ≤ 0x8000000000000000 then .int (-n) else l.float
    else if n < 0x10000000000000000 then .int n else l.float
  else l.float

end Literal

end Abacus.Json
