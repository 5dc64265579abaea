import Abacus.Proofs.Calls
import Mathlib.Data.List.Induction

/-!
# What the memory register recalls

A recall shows the accumulator of the last store, unless a clear or a reset came after it; then, and
if nothing was ever stored, it shows zero (`ScientificCalculator.recalls_lastStore`). This holds of
the steps of a script and of a calculator that is called through any mixture of its interfaces and
may be given another policy in between; operations that are rejected count for nothing.

An operation does to the register what depends on the operation and the accumulator alone
(`Operation.register`). The rule is proved of lists of operations, with one more operation at the end
of the list in each step (`Operation.recalls_registers`); machines and calculators are only shown to
follow these lists.
-/

namespace Abacus

namespace Operation

/-! ## Registers along operations -/

/-- What an operation makes of a register that holds `x`, beside the accumulator `v`. -/
def register (v x : Int64) : Operation → Int64
  | storeMemory => v
  | clearMemory | reset => 0
  | add _ | subtract _ | multiply _ | divide _ | value | recallMemory | squareRoot | history => x

/-- The register after operations. -/
def registers : Int64 → Int64 → List Operation → Int64
  | _, x, [] => x
  | v, x, op :: ops => registers (op.effect v) (op.register v x) ops

theorem registers_concat (v x : Int64) (ops : List Operation) (op : Operation) :
    registers v x (ops ++ [op]) = op.register (accumulator v ops) (registers v x ops) := by
  induction ops generalizing v x with
  | nil => rfl
  | cons op' ops ih => rw [List.cons_append, registers, ih, accumulator_cons, registers]

/-- What a register recalls after operations that found it empty. -/
inductive Recalls (v : Int64) (ops : List Operation) : Int64 → Prop
  /-- The accumulator at the last store, if the register has not been cleared since. -/
  | stored {before behind : List Operation} : ops = before ++ .storeMemory :: behind →
      (∀ op ∈ behind, op ≠ .storeMemory ∧ op ≠ .clearMemory ∧ op ≠ .reset) →
      Recalls v ops (accumulator v before)
  /-- Nothing, if each store was followed by a clear or a reset. -/
  | empty : (∀ before behind, ops = before ++ .storeMemory :: behind →
      .clearMemory ∈ behind ∨ .reset ∈ behind) → Recalls v ops 0

/-- Where an operation is not the last one, the last one stands behind it. -/
theorem exists_of_concat_eq {ops before behind : List Operation} {op op' : Operation}
    (h : ops ++ [op] = before ++ op' :: behind) (hne : op ≠ op') :
    ∃ rest, behind = rest ++ [op] ∧ ops = before ++ op' :: rest := by
  rcases List.eq_nil_or_concat behind with rfl | ⟨rest, last, rfl⟩
  · exact absurd (List.append_inj' h rfl).2 (by simpa using hne)
  · have hsplit : ops ++ [op] = (before ++ op' :: rest) ++ [last] := by simpa using h
    have hinj := List.append_inj' hsplit rfl
    obtain ⟨rfl⟩ := hinj.2
    exact ⟨rest, List.concat_eq_append, hinj.1⟩

variable {v x : Int64} {ops : List Operation}

/-- An operation that leaves the register alone leaves what it recalls. -/
theorem Recalls.concat_of_keeps (h : Recalls v ops x) {op : Operation}
    (hop : op ≠ .storeMemory ∧ op ≠ .clearMemory ∧ op ≠ .reset) : Recalls v (ops ++ [op]) x := by
  cases h with
  | @stored before behind hops hbehind =>
    have hsplit : ops ++ [op] = before ++ .storeMemory :: (behind ++ [op]) := by
      rw [hops, List.append_assoc, List.cons_append]
    refine .stored hsplit fun op' hop' => ?_
    rcases List.mem_append.1 hop' with hop' | hop'
    · exact hbehind op' hop'
    · exact List.mem_singleton.1 hop' ▸ hop
  | empty hcleared =>
    refine .empty fun before behind hsplit => ?_
    obtain ⟨rest, rfl, hops⟩ := exists_of_concat_eq hsplit hop.1
    exact (hcleared before rest hops).imp (List.mem_append_left _) (List.mem_append_left _)

/-- Behind a clear or a reset nothing is recalled. -/
theorem recalls_of_clears (v : Int64) (ops : List Operation) {op : Operation}
    (hop : op = .clearMemory ∨ op = .reset) : Recalls v (ops ++ [op]) 0 := by
  refine .empty fun before behind hsplit => ?_
  have hne : op ≠ .storeMemory := by
    rcases hop with rfl | rfl <;> simp
  obtain ⟨rest, rfl, -⟩ := exists_of_concat_eq hsplit hne
  exact hop.imp (fun h => by simp [h]) (fun h => by simp [h])

/-- **What the register holds is what it should recall.** -/
theorem recalls_registers (v : Int64) (ops : List Operation) :
    Recalls v ops (registers v 0 ops) := by
  -- On the last operation, since what is recalled is decided at the end of the list.
  induction ops using List.reverseRecOn with
  | nil => exact .empty fun before behind h => by simp at h
  | append_singleton ops op ih =>
    rw [registers_concat]
    cases op with
    | storeMemory =>
      have hsplit : ops ++ [.storeMemory] = ops ++ .storeMemory :: [] := rfl
      exact .stored hsplit (by simp)
    | clearMemory => exact recalls_of_clears v ops (.inl rfl)
    | reset => exact recalls_of_clears v ops (.inr rfl)
    | add | subtract | multiply | divide | value | recallMemory | squareRoot | history =>
      exact ih.concat_of_keeps (by simp)

end Operation

/-! ## Machines -/

namespace Machine

open Operation (registers)

variable {m m' : Machine} {op : Operation} {ops : List Operation} {steps : List Step}
  {output : Option Output}

/-- The register of a machine, empty if its kind has none. -/
def memory : Machine → Int64
  | scientific c => c.memory
  | _ => 0

theorem memory_start (variant : Variant) (initial : Int64) (policy : SqrtPolicy) :
    (start variant initial policy).memory = 0 := by
  cases variant <;> rfl

@[simp] theorem memory_after_scientific (c : ScientificCalculator) (op : Operation) :
    ((scientific c).after op).memory = op.register c.value c.memory := by
  cases op <;> rfl

theorem memory_of_step? (h : m.step? op = some (.ok (m', output))) :
    m'.memory = op.register m.value m.memory := by
  have hafter := eq_after_of_step? h
  cases m with
  | scientific c => rw [hafter, memory_after_scientific]; rfl
  | basic | advanced =>
    -- Without a register there is no operation on it.
    cases op with
    | storeMemory | recallMemory | clearMemory => cases h
    | add | subtract | multiply | reset | divide | value | squareRoot | history =>
      rw [hafter]
      rfl

theorem Passes.memory_eq (h : m.Passes ops steps m') :
    m'.memory = registers m.value m.memory ops := by
  induction h with
  | nil => rfl
  | cons hstep _ ih => rw [ih, memory_of_step? hstep, value_of_step? hstep, registers]

/-- What a recall shows is the register. -/
theorem output_of_step?_recall (h : m.step? .recallMemory = some (.ok (m', output))) :
    output = some (.integer m.memory) := by
  cases m with
  | scientific c => cases h; rfl
  | basic | advanced => cases h

end Machine

/-! ## Calculators in use -/

namespace ScientificCalculator

open Operation (accumulator registers)

/-- Something that is done with a scientific calculator. -/
inductive Use where
  /-- A call of an operation through one of the interfaces. -/
  | call (i : Interface) (op : Operation)
  /-- The choice of another policy. -/
  | choice (policy : SqrtPolicy)
  deriving DecidableEq

namespace Use

/-- The interface has the operation. -/
def isPossible : Use → Bool
  | call i op => i.offers .scientific op
  | choice _ => true

/-- The operation that is called. -/
def operation? : Use → Option Operation
  | call _ op => some op
  | choice _ => none

end Use

/-- What is done with a calculator. -/
def use? (c : ScientificCalculator) : Use → Option (CallResult ScientificCalculator)
  | .call i op => c.call? i op
  | .choice policy => some (.ok (c.withSqrtPolicy policy, none))

/-- The calculator after uses in turn. -/
def afterUses? (c : ScientificCalculator) (uses : List Use) : Option ScientificCalculator :=
  afterAll? use? c uses

/-- A call through an interface that has the operation does to the accumulator and to the register
what the operation does. -/
theorem exists_call? (c : ScientificCalculator) {i : Interface} {op : Operation}
    (h : i.offers .scientific op = true) : ∃ r, c.call? i op = some r ∧
      (CallResult.next c r).value = op.effect c.value ∧
      (CallResult.next c r).memory = op.register c.value c.memory := by
  obtain ⟨r, hr, hnext⟩ := Machine.exists_call? (m := .scientific c) h
  obtain ⟨r', hr', rfl⟩ := Option.map_eq_some_iff.1 hr
  have hafter : Machine.scientific (CallResult.next c r') = (Machine.scientific c).after op := by
    rw [← hnext]
    cases r' <;> rfl
  have hvalue := Machine.value_after (.scientific c) op
  have hmemory := Machine.memory_after_scientific c op
  rw [← hafter] at hvalue hmemory
  exact ⟨r', hr', hvalue, hmemory⟩

/-- What uses make of a calculator follows the operations among them: so do its accumulator and its
register. -/
def Follows (c : ScientificCalculator) (uses : List Use) (c' : ScientificCalculator) : Prop :=
  c'.value = accumulator c.value (uses.filterMap Use.operation?) ∧
    c'.memory = registers c.value c.memory (uses.filterMap Use.operation?)

theorem exists_use? (c : ScientificCalculator) {use : Use} (h : use.isPossible = true) :
    ∃ r, c.use? use = some r ∧ ∀ uses last, (CallResult.next c r).Follows uses last →
      c.Follows (use :: uses) last := by
  cases use with
  | choice policy => exact ⟨_, rfl, fun _ _ hlast => hlast⟩
  | call i op =>
    obtain ⟨r, hr, hvalue, hmemory⟩ := c.exists_call? h
    refine ⟨r, hr, fun uses last hlast => ?_⟩
    rw [Follows, hvalue, hmemory] at hlast
    exact hlast

/-- A calculator can be used in any way, and then only the operations count. -/
theorem exists_afterUses? (c : ScientificCalculator) {uses : List Use}
    (h : ∀ use ∈ uses, use.isPossible = true) :
    ∃ c', c.afterUses? uses = some c' ∧ c.Follows uses c' := by
  -- Every calculator can be used, so there is no invariant to keep.
  obtain ⟨c', hc', -, hfollows⟩ := exists_afterAll? (I := fun _ => True) Follows
    (fun _ => ⟨rfl, rfl⟩)
    (fun c _ _ huse => (c.exists_use? huse).imp fun _ => And.imp_right (And.intro trivial))
    trivial h
  exact ⟨c', hc', hfollows⟩

/-- **A recall shows the accumulator of the last store, or zero if the register was cleared since or
nothing was stored.** In a script the accumulator at each place is what the step of that place tells;
the other part is about a calculator that is in use since it was made. -/
theorem recalls_lastStore :
    (∀ (s : Script) (initial : Int64) (policy : SqrtPolicy) (r : Report),
      s.Reports initial policy r → ∀ (i : Nat) (step : Step), r.steps[i]? = some step →
        step.value = accumulator initial (s.operations.take (i + 1)) ∧
        (s.operations[i]? = some .recallMemory → ∃ x, step.output = some (.integer x) ∧
          Operation.Recalls initial (s.operations.take i) x)) ∧
    ∀ (initial : Int64) (uses : List Use), (∀ use ∈ uses, use.isPossible = true) →
      ∃ c x, (ofValue initial).afterUses? uses = some c ∧
        c.value = accumulator initial (uses.filterMap Use.operation?) ∧
        c.call? .own .recallMemory = some (.ok (c, some (.integer x))) ∧
        Operation.Recalls initial (uses.filterMap Use.operation?) x := by
  constructor
  · intro s initial policy r hr i step hi
    refine ⟨hr.accumulator_eq hi, fun hrecall => ?_⟩
    obtain ⟨op, before, next, hop, hbefore, hstep, -, -⟩ := hr.exists_step hi
    obtain rfl := Option.some.inj (hop.symm.trans hrecall)
    refine ⟨before.memory, Machine.output_of_step?_recall hstep, ?_⟩
    rw [hbefore.memory_eq, Script.machine, Machine.value_start, Machine.memory_start]
    exact Operation.recalls_registers initial _
  · intro initial uses huses
    obtain ⟨c, hc, hvalue, hmemory⟩ := (ofValue initial).exists_afterUses? huses
    refine ⟨c, c.memory, hc, hvalue, rfl, ?_⟩
    rw [hmemory]
    exact Operation.recalls_registers initial _

/-- A recall behind a store, in a script that fails later; and one behind a reset, on a calculator
that rejected a root and a quotient and was given another policy. -/
theorem recalls_lastStore_cleared :
    (∃ f, (⟨.scientific, [.recallMemory, .add 5, .storeMemory, .subtract 9, .recallMemory,
        .clearMemory, .recallMemory, .squareRoot], by decide⟩ : Script).execute 2 .error =
          .error f ∧
        ∃ step x, f.completed.steps[4]? = some step ∧ step.output = some (.integer x) ∧
          Operation.Recalls 2 [.recallMemory, .add 5, .storeMemory, .subtract 9] x) ∧
      ∃ c x, (ofValue (-7)).afterUses? [.call .own .squareRoot, .call .arithmetic (.divide 0),
          .choice .nan, .call .own .storeMemory, .call .own .squareRoot,
          .call .computable .reset] = some c ∧
        c.call? .own .recallMemory = some (.ok (c, some (.integer x))) ∧
        Operation.Recalls (-7) [.squareRoot, .divide 0, .storeMemory, .squareRoot, .reset] x := by
  obtain ⟨hscript, hdirect⟩ := recalls_lastStore
  constructor
  · obtain ⟨-, hrecall⟩ := hscript ⟨.scientific, [.recallMemory, .add 5, .storeMemory, .subtract 9,
      .recallMemory, .clearMemory, .recallMemory, .squareRoot], by decide⟩ 2 .error _
      (.completed rfl) 4 _ rfl
    obtain ⟨x, houtput, hx⟩ := hrecall rfl
    exact ⟨_, rfl, _, x, rfl, houtput, hx⟩
  · obtain ⟨c, x, hc, -, hrecall, hx⟩ := hdirect (-7) [.call .own .squareRoot,
      .call .arithmetic (.divide 0), .choice .nan, .call .own .storeMemory, .call .own .squareRoot,
      .call .computable .reset] (by decide)
    exact ⟨c, x, hc, hrecall, hx⟩

end ScientificCalculator

end Abacus
