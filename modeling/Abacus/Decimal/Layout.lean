import Abacus.Decimal.Shortest
import Abacus.Text.Integer

/-!
# How a floating-point number is laid out

The digits are the shortest ones that read back (`Abacus.Decimal.Shortest`). A `Layout` holds what
is left to decide: which numbers are written positionally, whether a whole number shows a fraction,
and which of two equally near decimals is taken. The sign of zero is kept.
-/

namespace Abacus.Decimal

/-- The decisions of a number format. -/
structure Layout where
  tie : Tie
  /-- Whole numbers in positional form end in `.0`. -/
  fraction : Bool
  /-- The exponents of the first digit that are written positionally; all of them if absent. -/
  positional : Option (Int × Int)
  deriving DecidableEq, Repr

namespace Layout

/-- Plain text: always positional, without a fraction on whole numbers. -/
def plain : Layout := ⟨.upward, false, none⟩

/-- Plain text in which every number shows that it is no integer. -/
def fractional : Layout := ⟨.upward, true, none⟩

/-- Numbers of a JSON text: positional from `1e-5` to below `1e16`, with a fraction. -/
def json : Layout := ⟨.toEven, true, some (-5, 15)⟩

/-- A run of `n` zeros. -/
def zeros (n : Nat) : List Char := List.replicate n '0'

/-- The digits with the point in its place. -/
def positionalText (l : Layout) (d : Digits) : List Char :=
  if d.point ≤ 0 then '0' :: '.' :: (zeros (-d.point).toNat ++ d.digits)
  else
    let n := d.point.toNat
    if d.digits.length ≤ n then
      d.digits ++ zeros (n - d.digits.length) ++ (if l.fraction then ['.', '0'] else [])
    else d.digits.take n ++ '.' :: d.digits.drop n

/-- The sign and digits of an exponent. -/
def exponentText (e : Int) : List Char :=
  'e' :: (if e < 0 then '-' else '+') :: Text.natDigits e.natAbs

/-- One digit before the point, the others after it, and the exponent. -/
def scientificText (d : Digits) : List Char :=
  let mantissa := match d.digits with
    | [] => []
    | [c] => [c]
    | c :: rest => c :: '.' :: rest
  mantissa ++ exponentText (d.point - 1)

/-- The digits in the form that the layout gives them. -/
def digitsText (l : Layout) (d : Digits) : List Char :=
  match l.positional with
  | none => l.positionalText d
  | some (least, greatest) =>
    if least ≤ d.point - 1 ∧ d.point - 1 ≤ greatest then l.positionalText d
    else scientificText d

/-- The text of a magnitude given by its bits. -/
def magnitudeText (l : Layout) (bits : Nat) : List Char :=
  if bits = 0 then '0' :: (if l.fraction then ['.', '0'] else [])
  else l.digitsText ((Binary.ofBits bits).shortest l.tie)

/-- The text of the double with these bits. -/
def bitsText (l : Layout) (bits : Nat) : List Char :=
  let negative := bits / 0x8000000000000000 % 2 = 1
  let magnitude := bits % 0x8000000000000000
  if 0x7FF0000000000000 < magnitude then ['N', 'a', 'N']
  else
    let body := if magnitude = 0x7FF0000000000000 then ['i', 'n', 'f']
      else l.magnitudeText magnitude
    if negative then '-' :: body else body

/-- The text of a double. -/
def render (l : Layout) (x : Float) : String := String.ofList (l.bitsText x.toBits.toNat)

end Layout

/-- Neither infinite nor a NaN. -/
def isFinite (x : Float) : Bool := x.toBits.toNat % 0x8000000000000000 < 0x7FF0000000000000

end Abacus.Decimal
