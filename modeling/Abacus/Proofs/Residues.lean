import Abacus.Proofs.Calls
import Mathlib.Data.Int.ModEq

/-!
# The accumulator is a residue

The arithmetic of a calculator wraps around at every operation. What comes out is the exact result,
computed without any bound, wrapped around once: the integers go to the 64-bit residues by a map
that respects sums, differences and products (`Operation.effect_ofInt`), so it respects a whole run
(`Operation.accumulator_ofInt`).

The accumulator follows the operations, of a script as well as of calls in any mixture of the
interfaces, so it is the residue of the exact result everywhere (`Script.value_isResidue`).
-/

namespace Abacus

/-! ## Exact arithmetic -/

/-- The only 64-bit integer that is congruent to `x` modulo 2^64. -/
def IsResidue (x : Int) (v : Int64) : Prop := ∀ w : Int64, w.toInt ≡ x [ZMOD 2 ^ 64] ↔ w = v

theorem isResidue_ofInt (x : Int) : IsResidue x (Int64.ofInt x) := by
  intro w
  have hbmod : w = Int64.ofInt x ↔ x.bmod (2 ^ 64) = w.toInt := by
    rw [eq_comm]
    exact Int64.ofInt_eq_iff_bmod_eq_toInt x w
  rw [hbmod]
  constructor
  · intro h
    have hw : w.toInt.bmod (2 ^ 64) = w.toInt :=
      (Int64.ofInt_eq_iff_bmod_eq_toInt w.toInt w).1 w.ofInt_toInt
    have hmod : x % ((2 ^ 64 : Nat) : Int) = w.toInt % ((2 ^ 64 : Nat) : Int) := h.symm
    rw [← Int.emod_bmod, hmod, Int.emod_bmod, hw]
  · intro h
    rw [← h]
    exact Int.bmod_emod

namespace Operation

/-- What an operation makes of the accumulator where integers have no bound. -/
def exactEffect (x : Int) : Operation → Int
  | add n => x + n.toInt
  | subtract n => x - n.toInt
  | multiply n => x * n.toInt
  | reset => 0
  | divide _ | value | storeMemory | recallMemory | clearMemory | squareRoot | history => x

/-- The accumulator after operations where integers have no bound. -/
def exact (initial : Int) (ops : List Operation) : Int := ops.foldl exactEffect initial

theorem exact_cons (x : Int) (op : Operation) (ops : List Operation) :
    exact x (op :: ops) = exact (op.exactEffect x) ops := rfl

/-- Wrapping around respects every operation, ... -/
theorem effect_ofInt (x : Int) (op : Operation) :
    op.effect (Int64.ofInt x) = Int64.ofInt (op.exactEffect x) := by
  cases op with
  | add n =>
    show Int64.ofInt x + n = Int64.ofInt (x + n.toInt)
    rw [Int64.ofInt_add, Int64.ofInt_toInt]
  | subtract n =>
    show Int64.ofInt x - n = Int64.ofInt (x - n.toInt)
    rw [Int64.ofInt_sub, Int64.ofInt_toInt]
  | multiply n =>
    show Int64.ofInt x * n = Int64.ofInt (x * n.toInt)
    rw [Int64.ofInt_mul, Int64.ofInt_toInt]
  | reset => rfl
  | divide | value | storeMemory | recallMemory | clearMemory | squareRoot | history => rfl

/-- ... and so a list of them. -/
theorem accumulator_ofInt (x : Int) (ops : List Operation) :
    accumulator (Int64.ofInt x) ops = Int64.ofInt (exact x ops) := by
  induction ops generalizing x with
  | nil => rfl
  | cons op ops ih => rw [accumulator_cons, exact_cons, effect_ofInt, ih]

/-- The accumulator is the residue of the exact result. -/
theorem isResidue_accumulator (v : Int64) (ops : List Operation) :
    IsResidue (exact v.toInt ops) (accumulator v ops) := by
  have hofInt := accumulator_ofInt v.toInt ops
  rw [Int64.ofInt_toInt] at hofInt
  rw [hofInt]
  exact isResidue_ofInt _

end Operation

/-! ## Scripts and calls -/

namespace Machine

/-- What a `value` step shows is the accumulator. -/
theorem output_of_step?_value {m m' : Machine} {output : Option Output}
    (h : m.step? .value = some (.ok (m', output))) : output = some (.integer m'.value) := by
  cases h
  rfl

end Machine

namespace Script

/-- At every completed step the accumulator is the residue of the exact result, and so it is after
calls of the calculator itself, through whichever of its interfaces. -/
theorem value_isResidue :
    (∀ (s : Script) (initial : Int64) (policy : SqrtPolicy) (r : Report),
      s.Reports initial policy r → ∀ (i : Nat) (step : Step), r.steps[i]? = some step →
        ∃ op, s.operations[i]? = some op ∧ step.operation = op.render ∧
          IsResidue (Operation.exact initial.toInt (s.operations.take (i + 1))) step.value ∧
          (op = .value → step.output = some (.integer step.value))) ∧
    ∀ (m : Machine) (calls : List (Interface × Operation)),
      (∀ call ∈ calls, call.1.offers m.variant call.2 = true) →
        ∃ m', m.afterCalls? calls = some m' ∧ m'.variant = m.variant ∧
          IsResidue (Operation.exact m.value.toInt (calls.map Prod.snd)) m'.value ∧
          ∀ i, i.offers m.variant .value = true →
            m'.call? i .value = some (.ok (m', some (.integer m'.value))) := by
  constructor
  · intro s initial policy r hr i step hi
    obtain ⟨op, before, next, hop, -, hstep, hname, hvalue⟩ := hr.exists_step hi
    refine ⟨op, hop, hname, ?_, ?_⟩
    · rw [hr.accumulator_eq hi]
      exact Operation.isResidue_accumulator initial _
    · rintro rfl
      rw [Machine.output_of_step?_value hstep, hvalue]
  · intro m calls hcalls
    obtain ⟨m', hm', hvariant, hvalue⟩ := Machine.exists_afterCalls?
      (fun m ops last => last.value = Operation.accumulator m.value ops) (fun _ => rfl)
      (fun m op ops last h => by rw [h, Machine.value_after, Operation.accumulator_cons]) hcalls
    refine ⟨m', hm', hvariant, ?_, fun i hi => ?_⟩
    · rw [hvalue]
      exact Operation.isResidue_accumulator m.value _
    · rw [Machine.call?_eq, hvariant, if_pos hi]
      rfl

/-- A run that wraps around twice, and a calculator that is called through all its interfaces. -/
theorem value_isResidue_wrapped :
    (∃ r step, (⟨.advanced, [.multiply 3, .subtract Int64.minValue, .value], by decide⟩ :
        Script).execute Int64.maxValue .error = .ok r ∧ r.steps[2]? = some step ∧
      IsResidue (0x7FFFFFFFFFFFFFFF * 3 - -0x8000000000000000) step.value ∧
      step.output = some (.integer step.value)) ∧
    ∃ m', (Machine.scientific ⟨⟨9⟩, 4, .error⟩).afterCalls?
        [(.own, .add 5), (.arithmetic, .divide 0), (.computable, .reset), (.own, .subtract 7)] =
          some m' ∧ IsResidue (-7) m'.value := by
  obtain ⟨hreports, hcalls⟩ := value_isResidue
  constructor
  · obtain ⟨op, hop, -, hresidue, houtput⟩ := hreports
      ⟨.advanced, [.multiply 3, .subtract Int64.minValue, .value], by decide⟩ Int64.maxValue .error
      _ (.whole rfl) 2 _ rfl
    cases hop
    exact ⟨_, _, rfl, rfl, hresidue, houtput rfl⟩
  · obtain ⟨m', hm', -, hresidue, -⟩ := hcalls (.scientific ⟨⟨9⟩, 4, .error⟩)
      [(.own, .add 5), (.arithmetic, .divide 0), (.computable, .reset), (.own, .subtract 7)]
      (by decide)
    exact ⟨m', hm', hresidue⟩

end Script

end Abacus
