import Abacus.Proofs.Replay
import Abacus.Proofs.Text.Digits

/-!
# What a run goes through, and runs in step

What a step does to a machine does not depend on what it shows, and an operation that is rejected
would have changed nothing (`Machine.after`). So the machine behind a pass is known from the
operations, and each step that a report tells of was taken by such a machine
(`Script.Reports.exists_step`).

Two machines run in step if a map from one to the other carries over each step of the first
(`Machine.Carries`). One step is to be compared then, and whole runs follow (`Machine.run?_map`).
-/

namespace Abacus

/-! ## Steps of a report -/

/-- The last accumulator that steps tell of; `v` if there is no step. -/
def lastValue (v : Int64) (steps : List Step) : Int64 := (steps.getLast?.map (·.value)).getD v

theorem lastValue_cons (v : Int64) (step : Step) (steps : List Step) :
    lastValue v (step :: steps) = lastValue step.value steps := by
  rw [lastValue, lastValue, List.getLast?_cons]
  cases steps.getLast? <;> rfl

theorem lastValue_append (v : Int64) (xs ys : List Step) :
    lastValue v (xs ++ ys) = lastValue (lastValue v xs) ys := by
  induction xs generalizing v with
  | nil => rfl
  | cons x xs ih => rw [List.cons_append, lastValue_cons, ih, lastValue_cons]

namespace Step

/-- A step with another output. -/
def mapOutput (f : Output → Output) (s : Step) : Step := { s with output := s.output.map f }

theorem mapOutput_id : mapOutput id = id := by
  funext s
  rw [mapOutput, Option.map_id_fun]
  rfl

end Step

theorem lastValue_mapOutput (f : Output → Output) (v : Int64) (steps : List Step) :
    lastValue v (steps.map (Step.mapOutput f)) = lastValue v steps := by
  rw [lastValue, lastValue, List.getLast?_map, Option.map_map]
  rfl

namespace Machine

namespace Run

/-- A run with other outputs. -/
def mapOutput (f : Output → Output) (r : Run) : Run :=
  { r with steps := r.steps.map (Step.mapOutput f) }

theorem mapOutput_id : mapOutput id = id := by
  funext r
  rw [mapOutput, Step.mapOutput_id, List.map_id]
  rfl

end Run

/-! ## The machine after a step -/

/-- The machine that an operation leaves behind when it is carried out. -/
def after (m : Machine) : Operation → Machine
  | .add n => m.add n
  | .subtract n => m.subtract n
  | .multiply n => m.multiply n
  | .reset => m.reset
  | .storeMemory =>
    match m with
    | scientific c => scientific c.storeMemory
    | m => m
  | .clearMemory =>
    match m with
    | scientific c => scientific c.clearMemory
    | m => m
  | .divide _ | .value | .recallMemory | .squareRoot | .history => m

@[simp] theorem variant_after (m : Machine) (op : Operation) :
    (m.after op).variant = m.variant := by
  cases op <;> cases m <;> rfl

@[simp] theorem value_after (m : Machine) (op : Operation) :
    (m.after op).value = op.effect m.value := by
  cases op <;> cases m <;> rfl

theorem hasPolicy_after {m : Machine} {policy : SqrtPolicy} (h : m.HasPolicy policy)
    (op : Operation) : (m.after op).HasPolicy policy := by
  cases m with
  | basic | advanced => cases op <;> trivial
  | scientific c => cases op <;> exact h

/-- What a step does to a machine does not depend on what it shows. -/
theorem eq_after_of_step? {m m' : Machine} {op : Operation} {output : Option Output}
    (h : m.step? op = some (.ok (m', output))) : m' = m.after op := by
  -- A quotient or a root is computed from a machine that stays.
  have hcomputed {x : Except CalcError Float}
      (hx : some (x.map fun y => (m, some (.float y))) = some (.ok (m', output))) : m' = m := by
    obtain ⟨y, -, hy⟩ := Text.map_eq_ok (Option.some.inj hx)
    exact (congrArg Prod.fst hy).symm
  cases op with
  | divide n => exact hcomputed h
  | squareRoot =>
    cases m with
    | scientific c => exact hcomputed h
    | basic | advanced => cases h
  | add | subtract | multiply | value | reset =>
    cases h
    rfl
  | storeMemory | recallMemory | clearMemory | history =>
    -- One kind of machine knows the operation.
    cases m <;> cases h
    rfl

/-- A step does to the accumulator what the operation says. -/
theorem value_of_step? {m m' : Machine} {op : Operation} {output : Option Output}
    (h : m.step? op = some (.ok (m', output))) : m'.value = op.effect m.value := by
  rw [eq_after_of_step? h, value_after]

theorem exists_hasPolicy (m : Machine) : ∃ policy, m.HasPolicy policy := by
  cases m with
  | scientific c => exact ⟨c.sqrtPolicy, rfl⟩
  | basic | advanced => exact ⟨.error, trivial⟩

/-- An operation is rejected because it divides by zero or takes the root of a negative value under
the policy that forbids it. -/
theorem rejected_cases {m : Machine} {op : Operation} {e : CalcError}
    (h : m.step? op = some (.error e)) :
    (op = .divide 0 ∧ e = .divisionByZero) ∨
      (op = .squareRoot ∧ e = .negativeSquareRoot m.value ∧
        ∃ c, m = scientific c ∧ c.value < 0 ∧ c.sqrtPolicy = .error) := by
  obtain ⟨policy, hpolicy⟩ := m.exists_hasPolicy
  have hsupports : m.variant.supports op = true := by
    rw [← m.isSome_step?_iff op, h]
    rfl
  have hanswers := step?_eq hsupports hpolicy
  cases hrejection : op.rejection? policy m.value with
  | none =>
    rw [hrejection] at hanswers
    obtain ⟨m', output, hok, -⟩ := hanswers
    rw [h] at hok
    cases hok
  | some e' =>
    rw [hrejection, Answers, h] at hanswers
    cases hanswers
    rcases Operation.rejection?_eq_some_iff.1 hrejection with ⟨rfl, rfl⟩ | ⟨rfl, rfl, hneg, rfl⟩
    · exact .inl ⟨rfl, rfl⟩
    · cases m with
      | scientific c => exact .inr ⟨rfl, rfl, c, rfl, hneg, hpolicy⟩
      | basic | advanced => cases hsupports

/-- An operation that can be rejected changes nothing. -/
theorem after_of_rejected {m : Machine} {op : Operation} {e : CalcError}
    (h : m.step? op = some (.error e)) : m.after op = m := by
  rcases rejected_cases h with ⟨rfl, -⟩ | ⟨rfl, -⟩ <;> rfl

/-! ## Passes -/

variable {m m' : Machine} {ops xs : List Operation} {op : Operation} {steps : List Step}
  {e : CalcError}

theorem Passes.hasPolicy {policy : SqrtPolicy} (h : m.Passes xs steps m')
    (hp : m.HasPolicy policy) : m'.HasPolicy policy := by
  induction h with
  | nil => exact hp
  | cons hstep _ ih =>
    rw [eq_after_of_step? hstep] at ih
    exact ih (hasPolicy_after hp _)

theorem Passes.value_eq (h : m.Passes xs steps m') :
    m'.value = Operation.accumulator m.value xs := by
  induction h with
  | nil => rfl
  | cons hstep _ ih => rw [ih, value_of_step? hstep, Operation.accumulator_cons]

theorem Passes.lastValue_eq (h : m.Passes xs steps m') : lastValue m.value steps = m'.value := by
  induction h with
  | nil => rfl
  | cons _ _ ih => rw [lastValue_cons, ih]

/-! ## Runs in step -/

/-- A map of machines carries a step over: the image takes it as well, to the image of the next
machine, and shows what `f` makes of the output. -/
def Carries (g : Machine → Machine) (f : Output → Output) (m : Machine) (op : Operation) : Prop :=
  (g m).step? op = (m.step? op).map (Except.map fun (next, output) => (g next, output.map f))

section Carries

variable {g : Machine → Machine} {f : Output → Output}

theorem Carries.step?_eq_ok {next : Machine} {output : Option Output} (h : Carries g f m op)
    (hstep : m.step? op = some (.ok (next, output))) :
    (g m).step? op = some (.ok (g next, output.map f)) := by
  rw [h, hstep]
  rfl

theorem Carries.step?_eq_error (h : Carries g f m op) (hstep : m.step? op = some (.error e)) :
    (g m).step? op = some (.error e) := by
  rw [h, hstep]
  rfl

/-- A quotient is a number, which `f` leaves as it is. -/
theorem carries_divide {n : Int64} (hdivide : (g m).divide n = m.divide n)
    (hf : ∀ x, f (.float x) = .float x) : Carries g f m (.divide n) := by
  rw [Carries, step?, step?, hdivide]
  cases m.divide n with
  | error e => rfl
  | ok x => simp [Except.map, hf]

/-- A map of machines that carries over each step carries over each run. -/
theorem run?_map {p : Operation → Prop} (hvalue : ∀ m, (g m).value = m.value)
    (hstep : ∀ m op, p op → Carries g f m op) (m : Machine) (hops : ∀ op ∈ ops, p op) :
    (g m).run? ops = (m.run? ops).map (Run.mapOutput f) := by
  induction ops generalizing m with
  | nil => rfl
  | cons op rest ih =>
    obtain ⟨hop, hrest⟩ := List.forall_mem_cons.1 hops
    have hcarries := hstep m op hop
    rw [run?, run?]
    rcases h : m.step? op with - | (e | ⟨next, output⟩)
    · rw [hcarries, h]
      rfl
    · rw [hcarries.step?_eq_error h]
      rfl
    · rw [hcarries.step?_eq_ok h]
      simp only [ih next hrest, hvalue, Option.map_map]
      rfl

end Carries

end Machine

/-! ## Scripts -/

namespace Script

variable {s : Script} {initial : Int64} {policy : SqrtPolicy}

theorem run?_operations (s : Script) (initial : Int64) (policy : SqrtPolicy) :
    (s.machine initial policy).run? s.operations = some (s.run initial policy) := by
  rw [run, Option.some_get]

theorem report_eq (s : Script) (initial : Int64) (steps : List Step) :
    s.report initial steps = ⟨s.variant, initial, steps, lastValue initial steps⟩ := rfl

/-- A script completes if its run does not stop, ... -/
theorem execute_eq_ok {r : Report} : s.execute initial policy = .ok r ↔ ∃ steps,
    (s.machine initial policy).run? s.operations = some ⟨steps, none⟩ ∧
      r = s.report initial steps := by
  rw [run?_operations, execute]
  rcases s.run initial policy with ⟨steps, - | ⟨op, e⟩⟩
  · constructor
    · intro h
      cases h
      exact ⟨steps, rfl, rfl⟩
    · rintro ⟨steps', hsteps, rfl⟩
      cases hsteps
      rfl
  · constructor
    · intro h
      cases h
    · rintro ⟨steps', hsteps, -⟩
      cases hsteps

/-- ... and fails where the run stops. -/
theorem execute_eq_error {f : Failure} : s.execute initial policy = .error f ↔ ∃ steps op e,
    (s.machine initial policy).run? s.operations = some ⟨steps, some (op, e)⟩ ∧
      f = ⟨steps.length + 1, op.render, e, s.report initial steps⟩ := by
  rw [run?_operations, execute]
  rcases s.run initial policy with ⟨steps, - | ⟨op, e⟩⟩
  · constructor
    · intro h
      cases h
    · rintro ⟨steps', op, e, hsteps, -⟩
      cases hsteps
  · constructor
    · intro h
      cases h
      exact ⟨steps, op, e, rfl, rfl⟩
    · rintro ⟨steps', op', e', hsteps, rfl⟩
      cases hsteps
      rfl

/-- A report tells of a pass of the operations with which its script starts. -/
theorem Reports.exists_pass {r : Report} (h : s.Reports initial policy r) : ∃ xs ys m,
    s.operations = xs ++ ys ∧ (s.machine initial policy).Passes xs r.steps m := by
  cases h with
  | whole h =>
    obtain ⟨steps, hrun, rfl⟩ := execute_eq_ok.1 h
    obtain ⟨m, hm⟩ := Machine.passes_of_run? hrun
    exact ⟨s.operations, [], m, (List.append_nil _).symm, hm⟩
  | completed h =>
    obtain ⟨steps, op, e, hrun, rfl⟩ := execute_eq_error.1 h
    obtain ⟨xs, ys, m, hops, hm, -⟩ := Machine.passes_of_stop hrun
    exact ⟨xs, op :: ys, m, hops, hm⟩

/-- A step of a report was taken by the machine behind the pass of the operations before it. -/
theorem Reports.exists_step {r : Report} (h : s.Reports initial policy r) {i : Nat} {step : Step}
    (hi : r.steps[i]? = some step) : ∃ (op : Operation) (before next : Machine),
      s.operations[i]? = some op ∧
      (s.machine initial policy).Passes (s.operations.take i) (r.steps.take i) before ∧
      before.step? op = some (.ok (next, step.output)) ∧ step.operation = op.render ∧
      step.value = next.value := by
  obtain ⟨xs, ys, m, hops, hm⟩ := h.exists_pass
  have hlength : i < xs.length := by
    rw [← hm.length_eq]
    exact (List.getElem?_eq_some_iff.1 hi).1
  rw [hops, List.getElem?_append_left hlength, List.take_append_of_le_length (Nat.le_of_lt hlength)]
  exact hm.exists_step hi

/-- A step tells of the accumulator behind the operations up to its own. -/
theorem Reports.accumulator_eq {r : Report} (h : s.Reports initial policy r) {i : Nat}
    {step : Step} (hi : r.steps[i]? = some step) :
    step.value = Operation.accumulator initial (s.operations.take (i + 1)) := by
  obtain ⟨op, before, next, hop, hbefore, hstep, -, hvalue⟩ := h.exists_step hi
  have hstart : (s.machine initial policy).value = initial :=
    Machine.value_start s.variant initial policy
  rw [hvalue, Machine.value_of_step? hstep, hbefore.value_eq, hstart, List.take_add_one, hop,
    Option.toList_some, Operation.accumulator_concat]

end Script

end Abacus
