/-!
# The shortest decimal of a binary floating-point number

A finite double is `m · 2^e` for natural `m` and integer `e`. The reals that round to it form an
interval around it, half a unit wide on each side (a quarter below a power of two), with the ends
included iff `m` is even. Among the decimals in that interval the shortest are those on the
coarsest grid `10^p` that has a point there; of these the nearest to the number is chosen.

If any point of a grid lies in the interval, so does one of the number's two neighbours on that
grid. So it is enough to try the two neighbours on the grids of 1, 2, … 17 digits, and the first
grid with a hit gives the answer. All comparisons are between natural numbers.
-/

namespace Abacus.Decimal

/-- The number `mantissa · 2^exponent`. -/
structure Binary where
  mantissa : Nat
  exponent : Int
  /-- The number below is half as far as the number above. -/
  narrowBelow : Bool
  deriving DecidableEq, Repr

/-- The decimal `0.d₁d₂…dₙ · 10^point`, where `d₁…dₙ` are the digits. -/
structure Digits where
  digits : List Char
  point : Int
  deriving DecidableEq, Repr

/-- The decimal to choose when two are equally near: the greater one or the one with an even last
digit. -/
inductive Tie where
  | upward
  | toEven
  deriving DecidableEq, Repr

namespace Binary

/-- The magnitude of a finite double given by its bits, without the sign. -/
def ofBits (bits : Nat) : Binary :=
  let fraction : Nat := bits % 0x10000000000000
  let biased : Nat := bits / 0x10000000000000 % 0x800
  if biased = 0 then ⟨fraction, -1074, false⟩
  else ⟨fraction + 0x10000000000000, (biased : Int) - 1075, fraction = 0 ∧ 1 < biased⟩

/-- The number in quarters of a unit, as a fraction: `4m · 2^e = scale · 4m / den`. -/
def scale (b : Binary) : Nat := Nat.pow 2 b.exponent.toNat

def den (b : Binary) : Nat := 4 * Nat.pow 2 (-b.exponent).toNat

/-- The numerator of the number itself. -/
def value (b : Binary) : Nat := 4 * b.mantissa * b.scale

/-- The numerator of the lower end of the interval. -/
def lower (b : Binary) : Nat := (4 * b.mantissa - if b.narrowBelow then 1 else 2) * b.scale

/-- The numerator of the upper end of the interval. -/
def upper (b : Binary) : Nat := (4 * b.mantissa + 2) * b.scale

/-- The numerator of `k · 10^p` over `den · 10^(-p)`: both sides of a comparison with the number
are scaled by the power of ten that clears a negative `p`. -/
def grid (b : Binary) (p : Int) (k : Nat) : Nat := k * Nat.pow 10 p.toNat * b.den

/-- The factor that goes with `grid`. -/
def clear (p : Int) : Nat := Nat.pow 10 (-p).toNat

/-- The decimal `k · 10^p` rounds to the number. -/
def Covers (b : Binary) (p : Int) (k : Nat) : Prop :=
  if b.mantissa % 2 = 0 then
    b.lower * clear p ≤ b.grid p k ∧ b.grid p k ≤ b.upper * clear p
  else b.lower * clear p < b.grid p k ∧ b.grid p k < b.upper * clear p

instance (b : Binary) (p : Int) (k : Nat) : Decidable (b.Covers p k) := by
  unfold Covers; infer_instance

/-- The greatest `k` with `k · 10^p` at most the number. -/
def below (b : Binary) (p : Int) : Nat := b.value * clear p / (Nat.pow 10 p.toNat * b.den)

/-- The number of digits of a natural number. -/
def digitCount (n : Nat) : Nat := (Nat.toDigits 10 n).length

/-- The exponent of the first digit: the greatest `e` with `10^e` at most the (positive) number. -/
def leading (b : Binary) : Int :=
  if b.den ≤ b.value then (digitCount (b.value / b.den) : Int) - 1
  else
    let d := digitCount (b.den / b.value)
    if b.value * Nat.pow 10 (d - 1) = b.den then -((d : Int) - 1) else -(d : Int)

/-- Of the neighbours `k` and `k + 1` on the grid `10^p`, the nearer one. -/
def nearer (b : Binary) (tie : Tie) (p : Int) (k : Nat) : Nat :=
  let down := b.value * clear p - b.grid p k
  let up := b.grid p (k + 1) - b.value * clear p
  if down < up then k
  else if up < down then k + 1
  else match tie with
    | .upward => k + 1
    | .toEven => if k % 2 = 0 then k else k + 1

/-- The point of the grid `10^p` that stands for the number, if there is one. -/
def onGrid? (b : Binary) (tie : Tie) (p : Int) : Option Nat :=
  let k := b.below p
  match decide (b.Covers p k), decide (b.Covers p (k + 1)) with
  | true, true => some (b.nearer tie p k)
  | true, false => some k
  | false, true => some (k + 1)
  | false, false => none

/-- Tries the grids with `n`, `n + 1`, … digits, `fuel` of them; the last one always has a point. -/
def search (b : Binary) (tie : Tie) (n : Nat) : Nat → Int × Nat
  | 0 => let p := b.leading + 1 - n; (p, b.below p)
  | fuel + 1 =>
    let p := b.leading + 1 - n
    match b.onGrid? tie p with
    | some k => (p, k)
    | none => search b tie (n + 1) fuel

/-- The digits without their trailing zeros. -/
def significant (digits : List Char) : List Char := (digits.reverse.dropWhile (· = '0')).reverse

/-- The shortest decimal of a number, which is not zero. -/
def shortest (b : Binary) (tie : Tie) : Digits :=
  let (p, k) := b.search tie 1 17
  let ds := Nat.toDigits 10 k
  ⟨significant ds, p + ds.length⟩

end Binary

end Abacus.Decimal
