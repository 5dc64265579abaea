import Abacus.Calculator.Events
import Abacus.Decimal.Layout
import Abacus.Operation

/-!
# Machines

A machine is a calculator of one of the three kinds, which carries out operations one at a time.
A step says what the operation gave; a machine has no step at all for an operation that its kind
does not know (`Machine.step?` is `none`), and `Variant.supports` says in advance when that is so.
-/

namespace Abacus

/-- What a step shows. -/
inductive Output where
  | integer (n : Int64)
  | float (x : Float)
  | history (entries : List String)

namespace Output

/-- The output as plain text. -/
def render : Output → String
  | integer n => Text.renderInt64 n
  | float x => Decimal.Layout.plain.render x
  | history entries => Text.quotedList entries

/-- The output as JSON. There are no numbers for NaN and the infinities, so these are texts. -/
def toJson : Output → Json.Value
  | integer n => .int64 n
  | float x => if Decimal.isFinite x then .float x else .str (Decimal.Layout.plain.render x)
  | history entries => .strings entries

end Output

/-- A calculator of one of the three kinds. -/
inductive Machine where
  | basic (c : Calculator)
  | scientific (c : ScientificCalculator)
  | advanced (c : AdvancedCalculator)
  deriving DecidableEq, Repr

namespace Machine

/-- A fresh machine. The policy matters to the scientific kind alone. -/
def start (variant : Variant) (initial : Int64) (policy : SqrtPolicy) : Machine :=
  match variant with
  | .basic => basic ⟨initial⟩
  | .scientific => scientific ((ScientificCalculator.ofValue initial).withSqrtPolicy policy)
  | .advanced => advanced (.ofValue initial)

/-- The kind of the machine. -/
def variant : Machine → Variant
  | basic _ => .basic
  | scientific _ => .scientific
  | advanced _ => .advanced

/-- The accumulator. -/
def value : Machine → Int64
  | basic c => c.value
  | scientific c => c.value
  | advanced c => c.value

def add (m : Machine) (n : Int64) : Machine :=
  match m with
  | basic c => basic (c.add n)
  | scientific c => scientific (c.add n)
  | advanced c => advanced (c.add n)

def subtract (m : Machine) (n : Int64) : Machine :=
  match m with
  | basic c => basic (c.subtract n)
  | scientific c => scientific (c.subtract n)
  | advanced c => advanced (c.subtract n)

def multiply (m : Machine) (n : Int64) : Machine :=
  match m with
  | basic c => basic (c.multiply n)
  | scientific c => scientific (c.multiply n)
  | advanced c => advanced (c.multiply n)

def divide (m : Machine) (n : Int64) : Except CalcError Float :=
  match m with
  | basic c => c.divide n
  | scientific c => c.divide n
  | advanced c => c.divide n

def reset : Machine → Machine
  | basic c => basic c.reset
  | scientific c => scientific c.reset
  | advanced c => advanced c.reset

instance : Arithmetic Machine := ⟨add, subtract, multiply, divide, value, reset⟩

/-- The machine after an operation and what the operation shows, or why it was rejected. -/
abbrev Result := Except CalcError (Machine × Option Output)

/-- Carries out an operation, if the machine knows it. -/
def step? (m : Machine) (op : Operation) : Option Result :=
  match op with
  | .add n => some (.ok (m.add n, none))
  | .subtract n => some (.ok (m.subtract n, none))
  | .multiply n => some (.ok (m.multiply n, none))
  | .divide n => some ((m.divide n).map fun x => (m, some (.float x)))
  | .value => some (.ok (m, some (.integer m.value)))
  | .reset => some (.ok (m.reset, none))
  | .storeMemory =>
    match m with
    | scientific c => some (.ok (scientific c.storeMemory, none))
    | _ => none
  | .recallMemory =>
    match m with
    | scientific c => some (.ok (m, some (.integer c.recallMemory)))
    | _ => none
  | .clearMemory =>
    match m with
    | scientific c => some (.ok (scientific c.clearMemory, none))
    | _ => none
  | .squareRoot =>
    match m with
    | scientific c => some (c.squareRoot.map fun x => (m, some (.float x)))
    | _ => none
  | .history =>
    match m with
    | advanced c => some (.ok (m, some (.history c.history)))
    | _ => none

/-- The accumulator at the bottom of a machine. -/
def base : Machine → Calculator
  | basic c => c
  | scientific c => c.base
  | advanced c => c.base

/-- What is reported while an operation is carried out. -/
def events (m : Machine) (op : Operation) : List Log.Event :=
  match op with
  | .add n =>
    match m with
    | advanced c => c.addEvents n
    | m => m.base.addEvents n
  | .subtract n =>
    match m with
    | advanced c => c.subtractEvents n
    | m => m.base.subtractEvents n
  | .multiply n => m.base.multiplyEvents n
  | .divide n => m.base.divideEvents n
  | .reset => m.base.resetEvents
  | .storeMemory =>
    match m with
    | scientific c => c.storeEvents
    | _ => []
  | .squareRoot =>
    match m with
    | scientific c => c.squareRootEvents
    | _ => []
  | _ => []

/-- A machine has a step exactly for the operations that its variant supports. -/
theorem isSome_step?_iff (m : Machine) (op : Operation) :
    (m.step? op).isSome = m.variant.supports op := by
  cases op <;> cases m <;> rfl

/-- A step keeps the variant. -/
theorem variant_of_step? {m m' : Machine} {op : Operation} {out : Option Output}
    (h : m.step? op = some (.ok (m', out))) : m'.variant = m.variant := by
  cases op with
  | add n | subtract n | multiply n | reset =>
    cases m <;> simp only [step?, Option.some.injEq, Except.ok.injEq, Prod.mk.injEq] at h <;>
      obtain ⟨rfl, _⟩ := h <;> rfl
  | value =>
    simp only [step?, Option.some.injEq, Except.ok.injEq, Prod.mk.injEq] at h
    rw [h.1]
  | divide n =>
    simp only [step?, Option.some.injEq] at h
    cases hd : m.divide n with
    | error e => simp [hd, Except.map] at h
    | ok x =>
      simp only [hd, Except.map, Except.ok.injEq, Prod.mk.injEq] at h
      rw [h.1]
  | squareRoot =>
    cases m with
    | scientific c =>
      simp only [step?, Option.some.injEq] at h
      cases hd : c.squareRoot with
      | error e => simp [hd, Except.map] at h
      | ok x =>
        simp only [hd, Except.map, Except.ok.injEq, Prod.mk.injEq] at h
        rw [← h.1]
    | basic c => simp [step?] at h
    | advanced c => simp [step?] at h
  | storeMemory | recallMemory | clearMemory =>
    cases m with
    | scientific c =>
      simp only [step?, Option.some.injEq, Except.ok.injEq, Prod.mk.injEq] at h
      exact h.1 ▸ rfl
    | basic c => simp [step?] at h
    | advanced c => simp [step?] at h
  | history =>
    cases m with
    | advanced c =>
      simp only [step?, Option.some.injEq, Except.ok.injEq, Prod.mk.injEq] at h
      rw [← h.1]
    | basic c => simp [step?] at h
    | scientific c => simp [step?] at h

end Machine

end Abacus
