import Abacus.Proofs.Passes

/-!
# What a script does

A machine has more than one register, but whether an operation is rejected depends on the
accumulator alone, and so does the next accumulator. A run can therefore be told from the operations
and the initial value (`Machine.step?_eq`): it stops at the first operation that is rejected there,
with the steps of a run of the operations before it (`Machine.run?_rejected`), and otherwise it has
a step for every operation (`Machine.run?_accepted`).
-/

namespace Abacus

/-! ## The accumulator -/

namespace Operation

/-- What an operation makes of the accumulator. -/
def effect (v : Int64) : Operation → Int64
  | add n => v + n
  | subtract n => v - n
  | multiply n => v * n
  | reset => 0
  | _ => v

/-- Why an operation is rejected, if it is. -/
def rejection? (policy : SqrtPolicy) (v : Int64) : Operation → Option CalcError
  | divide n => if n = 0 then some .divisionByZero else none
  | squareRoot => if v < 0 ∧ policy = .error then some (.negativeSquareRoot v) else none
  | _ => none

theorem rejection?_divide (policy : SqrtPolicy) (v n : Int64) :
    rejection? policy v (.divide n) = if n = 0 then some .divisionByZero else none := rfl

theorem rejection?_squareRoot (policy : SqrtPolicy) (v : Int64) :
    rejection? policy v .squareRoot =
      if v < 0 ∧ policy = .error then some (.negativeSquareRoot v) else none := rfl

/-- A division by zero and, under the policy that forbids it, the root of a negative value are
rejected, and nothing else is. -/
theorem rejection?_eq_some_iff {policy : SqrtPolicy} {v : Int64} {op : Operation} {e : CalcError} :
    op.rejection? policy v = some e ↔ (op = .divide 0 ∧ e = .divisionByZero) ∨
      (op = .squareRoot ∧ e = .negativeSquareRoot v ∧ v < 0 ∧ policy = .error) := by
  cases op with
  | divide n =>
    rw [rejection?_divide, Option.ite_none_right_eq_some]
    constructor
    · rintro ⟨rfl, he⟩
      cases he
      exact .inl ⟨rfl, rfl⟩
    · rintro (⟨hop, rfl⟩ | ⟨hop, -⟩)
      · cases hop
        exact ⟨rfl, rfl⟩
      · cases hop
  | squareRoot =>
    rw [rejection?_squareRoot, Option.ite_none_right_eq_some]
    constructor
    · rintro ⟨⟨hneg, hpolicy⟩, he⟩
      cases he
      exact .inr ⟨rfl, rfl, hneg, hpolicy⟩
    · rintro (⟨hop, -⟩ | ⟨-, rfl, hneg, hpolicy⟩)
      · cases hop
      · exact ⟨⟨hneg, hpolicy⟩, rfl⟩
  | add | subtract | multiply | value | reset | storeMemory | recallMemory | clearMemory
  | history =>
    constructor
    · intro he
      cases he
    · rintro (⟨hop, -⟩ | ⟨hop, -⟩) <;> cases hop

/-- The accumulator after operations. -/
def accumulator (initial : Int64) (ops : List Operation) : Int64 := ops.foldl effect initial

/-- None of the operations is rejected in its turn. -/
def Accepted (policy : SqrtPolicy) : Int64 → List Operation → Prop
  | _, [] => True
  | v, op :: rest => op.rejection? policy v = none ∧ Accepted policy (op.effect v) rest

theorem accumulator_cons (v : Int64) (op : Operation) (ops : List Operation) :
    accumulator v (op :: ops) = accumulator (op.effect v) ops := rfl

theorem accumulator_concat (v : Int64) (ops : List Operation) (op : Operation) :
    accumulator v (ops ++ [op]) = op.effect (accumulator v ops) := by
  rw [accumulator, List.foldl_append]
  rfl

/-- Operations are accepted if each of them is, for the accumulator after those before it. -/
theorem accepted_iff (policy : SqrtPolicy) (v : Int64) (ops : List Operation) :
    Accepted policy v ops ↔ ∀ (i : Nat) (op : Operation), ops[i]? = some op →
      op.rejection? policy (accumulator v (ops.take i)) = none := by
  induction ops generalizing v with
  | nil =>
    refine ⟨fun _ i op hop => ?_, fun _ => trivial⟩
    rw [List.getElem?_nil] at hop
    cases hop
  | cons op ops ih =>
    rw [Accepted, ih]
    constructor
    · rintro ⟨hop, hrest⟩ i op' hi
      cases i with
      | zero =>
        cases hi
        exact hop
      | succ i =>
        rw [List.take_succ_cons, accumulator_cons]
        exact hrest i op' hi
    · intro h
      refine ⟨h 0 op rfl, fun i op' hi => ?_⟩
      have hnext := h (i + 1) op' hi
      rwa [List.take_succ_cons, accumulator_cons] at hnext

/-- Either no operation is rejected, or there is a first one. -/
theorem accepted_or_rejected (policy : SqrtPolicy) (v : Int64) (ops : List Operation) :
    Accepted policy v ops ∨ ∃ k op e, ops[k]? = some op ∧ Accepted policy v (ops.take k) ∧
      op.rejection? policy (accumulator v (ops.take k)) = some e := by
  induction ops generalizing v with
  | nil => exact .inl trivial
  | cons op ops ih =>
    cases hop : op.rejection? policy v with
    | some e => exact .inr ⟨0, op, e, rfl, trivial, hop⟩
    | none =>
      rcases ih (op.effect v) with h | ⟨k, op', e, hk, hbefore, he⟩
      · exact .inl ⟨hop, h⟩
      · exact .inr ⟨k + 1, op', e, hk, ⟨hop, hbefore⟩, he⟩

/-- The texts of operations, each with the accumulator after it. -/
def trail : Int64 → List Operation → List (String × Int64)
  | _, [] => []
  | v, op :: rest => (op.render, op.effect v) :: trail (op.effect v) rest

theorem map_fst_trail (v : Int64) (ops : List Operation) :
    (trail v ops).map Prod.fst = ops.map render := by
  induction ops generalizing v with
  | nil => rfl
  | cons op ops ih => rw [trail, List.map_cons, List.map_cons, ih]

theorem snd_trail {v : Int64} {ops : List Operation} {i : Nat} {p : String × Int64}
    (h : (trail v ops)[i]? = some p) : p.2 = accumulator v (ops.take (i + 1)) := by
  induction ops generalizing v i with
  | nil =>
    rw [trail, List.getElem?_nil] at h
    cases h
  | cons op ops ih =>
    rw [List.take_succ_cons, accumulator_cons]
    cases i with
    | zero =>
      cases h
      rfl
    | succ i => exact ih h

theorem last_trail (v : Int64) (ops : List Operation) :
    ((trail v ops).getLast?.map Prod.snd).getD v = accumulator v ops := by
  induction ops generalizing v with
  | nil => rfl
  | cons op ops ih =>
    rw [trail, List.getLast?_cons, accumulator_cons, ← ih (op.effect v)]
    cases (trail (op.effect v) ops).getLast? <;> rfl

end Operation

/-! ## Machines -/

namespace Machine

open Operation (accumulator Accepted)

/-- The policy of the machine, if its kind has one. -/
def HasPolicy (policy : SqrtPolicy) : Machine → Prop
  | scientific c => c.sqrtPolicy = policy
  | _ => True

theorem hasPolicy_start (variant : Variant) (initial : Int64) (policy : SqrtPolicy) :
    (start variant initial policy).HasPolicy policy := by
  cases variant <;> trivial

theorem value_start (variant : Variant) (initial : Int64) (policy : SqrtPolicy) :
    (start variant initial policy).value = initial := by
  cases variant <;> rfl

theorem variant_start (variant : Variant) (initial : Int64) (policy : SqrtPolicy) :
    (start variant initial policy).variant = variant := by
  cases variant <;> rfl

/-- What a step comes to if there is this reason, or none, to reject the operation. -/
def Answers (m : Machine) (op : Operation) (policy : SqrtPolicy) : Option CalcError → Prop
  | some e => m.step? op = some (.error e)
  | none => ∃ m' output, m.step? op = some (.ok (m', output)) ∧
      m'.value = op.effect m.value ∧ m'.HasPolicy policy

/-- What a step does to the accumulator, and when it is rejected. -/
theorem step?_eq {m : Machine} {op : Operation} {policy : SqrtPolicy}
    (hs : m.variant.supports op = true) (hp : m.HasPolicy policy) :
    m.Answers op policy (op.rejection? policy m.value) := by
  cases op with
  | add n | subtract n | multiply n | reset | value =>
    cases m <;> exact ⟨_, _, rfl, rfl, hp⟩
  | divide n =>
    by_cases hn : n = 0
    · subst hn
      cases m <;> rfl
    · have hdivide : m.divide n = .ok (nearestDouble m.value / nearestDouble n) := by
        cases m <;> exact if_neg hn
      simp only [Operation.rejection?_divide, if_neg hn]
      exact ⟨m, _, by rw [step?, hdivide]; rfl, rfl, hp⟩
  | storeMemory | recallMemory | clearMemory =>
    cases m with
    | scientific c => exact ⟨_, _, rfl, rfl, hp⟩
    | basic | advanced => cases hs
  | history =>
    cases m with
    | advanced c => exact ⟨_, _, rfl, rfl, hp⟩
    | basic | scientific => cases hs
  | squareRoot =>
    cases m with
    | basic | advanced => cases hs
    | scientific c =>
      have hpolicy : c.sqrtPolicy = policy := hp
      subst hpolicy
      by_cases hneg : c.value < 0
      · cases hc : c.sqrtPolicy with
        | error =>
          have hroot : c.squareRoot = .error (.negativeSquareRoot c.value) := by
            rw [ScientificCalculator.squareRoot, if_pos hneg, hc]
          simp only [Operation.rejection?_squareRoot, value, hneg, and_self, if_true, Answers,
            step?, hroot]
          rfl
        | nan =>
          have hroot : c.squareRoot = .ok (0.0 / 0.0) := by
            rw [ScientificCalculator.squareRoot, if_pos hneg, hc]
          simp only [Operation.rejection?_squareRoot, reduceCtorEq, and_false, if_false]
          exact ⟨scientific c, _, by rw [step?, hroot]; rfl, rfl, hc⟩
      · have hroot : c.squareRoot = .ok (nearestDouble c.value).sqrt := if_neg hneg
        have haccepted : ¬(value (scientific c) < 0 ∧ c.sqrtPolicy = .error) := fun h => hneg h.1
        simp only [Operation.rejection?_squareRoot, if_neg haccepted]
        exact ⟨scientific c, _, by rw [step?, hroot]; rfl, rfl, rfl⟩

/-- Operations that are accepted are a pass, with a step for every one of them. -/
theorem passes_of_accepted {m : Machine} {ops : List Operation} {policy : SqrtPolicy}
    (hs : ∀ op ∈ ops, m.variant.supports op = true) (hp : m.HasPolicy policy)
    (ha : Accepted policy m.value ops) : ∃ steps m', m.Passes ops steps m' ∧
      m'.value = accumulator m.value ops ∧ m'.HasPolicy policy ∧
      steps.map (fun step => (step.operation, step.value)) = Operation.trail m.value ops := by
  induction ops generalizing m with
  | nil => exact ⟨[], m, .nil m, rfl, hp, rfl⟩
  | cons op ops ih =>
    have hstep := step?_eq (hs op List.mem_cons_self) hp
    rw [ha.1] at hstep
    obtain ⟨next, output, hnext, hvalue, hp'⟩ := hstep
    have hs' : ∀ op' ∈ ops, next.variant.supports op' = true := by
      intro op' hop'
      rw [variant_of_step? hnext]
      exact hs op' (List.mem_cons_of_mem op hop')
    obtain ⟨steps, m', hpass, hlast, hpolicy, htrail⟩ := ih hs' hp' (by rw [hvalue]; exact ha.2)
    rw [hvalue] at hlast htrail
    refine ⟨_, m', .cons hnext hpass, hlast, hpolicy, ?_⟩
    rw [List.map_cons, htrail, Operation.trail, hvalue]

/-- A run without a rejected operation has a step for every operation. -/
theorem run?_accepted {m : Machine} {ops : List Operation} {policy : SqrtPolicy}
    (hs : ∀ op ∈ ops, m.variant.supports op = true) (hp : m.HasPolicy policy)
    (ha : Accepted policy m.value ops) :
    ∃ steps, m.run? ops = some ⟨steps, none⟩ ∧
      steps.map (fun step => (step.operation, step.value)) = Operation.trail m.value ops := by
  obtain ⟨steps, m', hpass, -, -, htrail⟩ := passes_of_accepted hs hp ha
  exact ⟨steps, hpass.run?_eq, htrail⟩

/-- A run stops at the first rejected operation, with the steps of a run of those before it. -/
theorem run?_rejected {m : Machine} {ops : List Operation} {policy : SqrtPolicy} {k : Nat}
    {op : Operation} {e : CalcError} (hs : ∀ op ∈ ops, m.variant.supports op = true)
    (hp : m.HasPolicy policy) (hk : ops[k]? = some op)
    (ha : Accepted policy m.value (ops.take k))
    (he : op.rejection? policy (accumulator m.value (ops.take k)) = some e) :
    ∃ steps, m.run? (ops.take k) = some ⟨steps, none⟩ ∧ steps.length = k ∧
      m.run? ops = some ⟨steps, some (op, e)⟩ := by
  obtain ⟨steps, m', hpass, hvalue, hp', -⟩ :=
    passes_of_accepted (fun op hop => hs op (List.mem_of_mem_take hop)) hp ha
  obtain ⟨hlt, hget⟩ := List.getElem?_eq_some_iff.1 hk
  have hrejected : m'.step? op = some (.error e) := by
    have hs' : m'.variant.supports op = true := by
      rw [hpass.variant_eq]
      exact hs op (List.mem_of_getElem? hk)
    have hanswers := step?_eq hs' hp'
    rwa [hvalue, he] at hanswers
  have hsplit : ops = ops.take k ++ op :: ops.drop (k + 1) := by
    rw [← hget, ← List.drop_eq_getElem_cons hlt, List.take_append_drop]
  refine ⟨steps, hpass.run?_eq, ?_, ?_⟩
  · rw [hpass.length_eq, List.length_take_of_le (Nat.le_of_lt hlt)]
  · rw [hsplit]
    exact hpass.run?_stop hrejected _

end Machine

/-! ## Scripts -/

namespace Script

open Operation (accumulator Accepted)

/-- The script of the first `k` operations. -/
def take (s : Script) (k : Nat) : Script where
  variant := s.variant
  operations := s.operations.take k
  supported op hop := s.supported op (List.mem_of_mem_take hop)

/-- The operation at a place, counted from one, is rejected for the accumulator before it. -/
inductive Rejects (s : Script) (initial : Int64) (policy : SqrtPolicy) : Nat → CalcError → Prop
  | division {k : Nat} : s.operations[k]? = some (.divide 0) →
      Rejects s initial policy (k + 1) .divisionByZero
  | squareRoot {k : Nat} : s.operations[k]? = some .squareRoot → policy = .error →
      accumulator initial (s.operations.take k) < 0 →
      Rejects s initial policy (k + 1)
        (.negativeSquareRoot (accumulator initial (s.operations.take k)))

theorem rejects_succ_iff {s : Script} {initial : Int64} {policy : SqrtPolicy} {k : Nat}
    {e : CalcError} : s.Rejects initial policy (k + 1) e ↔ ∃ op, s.operations[k]? = some op ∧
      op.rejection? policy (accumulator initial (s.operations.take k)) = some e := by
  constructor
  · rintro (⟨hop⟩ | ⟨hop, hpolicy, hneg⟩)
    · exact ⟨_, hop, rfl⟩
    · exact ⟨_, hop, if_pos ⟨hneg, hpolicy⟩⟩
  · rintro ⟨op, hop, he⟩
    rcases Operation.rejection?_eq_some_iff.1 he with ⟨rfl, rfl⟩ | ⟨rfl, rfl, hneg, hpolicy⟩
    · exact .division hop
    · exact .squareRoot hop hpolicy hneg

/-- Operations are accepted if none of their places is rejected. -/
theorem accepted_take {s : Script} {initial : Int64} {policy : SqrtPolicy} {k : Nat}
    (h : ∀ j ≤ k, ∀ e, ¬s.Rejects initial policy j e) :
    Accepted policy initial (s.operations.take k) := by
  rw [Operation.accepted_iff]
  intro i op hop
  rw [List.getElem?_take, Option.ite_none_right_eq_some] at hop
  obtain ⟨hi, hop⟩ := hop
  rw [List.take_take, Nat.min_eq_left (Nat.le_of_lt hi)]
  cases he : op.rejection? policy (accumulator initial (s.operations.take i)) with
  | none => rfl
  | some e => exact absurd (rejects_succ_iff.2 ⟨op, hop, he⟩) (h (i + 1) hi e)

theorem run_eq {s : Script} {initial : Int64} {policy : SqrtPolicy} {r : Machine.Run}
    (h : (s.machine initial policy).run? s.operations = some r) : s.run initial policy = r := by
  rw [run, Option.get_of_eq_some _ h]

theorem supports_machine (s : Script) (initial : Int64) (policy : SqrtPolicy) :
    ∀ op ∈ s.operations, (s.machine initial policy).variant.supports op = true := by
  intro op hop
  rw [machine, Machine.variant_start]
  exact s.supported op hop

/-- A script without a rejected operation completes. -/
theorem execute_of_accepted {s : Script} {initial : Int64} {policy : SqrtPolicy}
    (h : Accepted policy initial s.operations) :
    ∃ steps, s.execute initial policy = .ok (s.report initial steps) ∧
      steps.map (fun step => (step.operation, step.value)) =
        Operation.trail initial s.operations := by
  have hvalue := Machine.value_start s.variant initial policy
  rw [← hvalue] at h
  obtain ⟨steps, hrun, htrail⟩ := Machine.run?_accepted (s.supports_machine initial policy)
    (Machine.hasPolicy_start s.variant initial policy) h
  refine ⟨steps, ?_, ?_⟩
  · rw [execute, run_eq hrun]
  · rw [htrail, machine, hvalue]

/-- Steps that follow the trail of operations name these operations. -/
theorem operations_of_trail {steps : List Step} {v : Int64} {ops : List Operation}
    (h : steps.map (fun step => (step.operation, step.value)) = Operation.trail v ops) :
    steps.map (·.operation) = ops.map Operation.render := by
  rw [← Operation.map_fst_trail v ops, ← h, List.map_map]
  rfl

/-- The final value of a report that has a step for every operation. -/
theorem finalValue_report {s : Script} {initial : Int64} {steps : List Step}
    (h : steps.map (fun step => (step.operation, step.value)) =
      Operation.trail initial s.operations) :
    (s.report initial steps).finalValue = accumulator initial s.operations := by
  rw [← Operation.last_trail, ← h, List.getLast?_map, Option.map_map]
  rfl

/-- A script stops at the first rejected operation, with the report of those before it. -/
theorem execute_of_rejected {s : Script} {initial : Int64} {policy : SqrtPolicy} {k : Nat}
    {op : Operation} {e : CalcError} (hk : s.operations[k]? = some op)
    (h : Accepted policy initial (s.operations.take k))
    (he : op.rejection? policy (accumulator initial (s.operations.take k)) = some e) :
    ∃ completed, (s.take k).execute initial policy = .ok completed ∧
      completed.finalValue = accumulator initial (s.operations.take k) ∧
      s.execute initial policy = .error ⟨k + 1, op.render, e, completed⟩ := by
  obtain ⟨steps', hok, htrail⟩ := execute_of_accepted (s := s.take k) h
  have hvalue := Machine.value_start s.variant initial policy
  rw [← hvalue] at h he
  obtain ⟨steps, hbefore, hlength, hrun⟩ :=
    Machine.run?_rejected (s.supports_machine initial policy)
      (Machine.hasPolicy_start s.variant initial policy) hk h he
  have hcompleted : (s.take k).execute initial policy = .ok (s.report initial steps) := by
    have hrun_take : (s.take k).run initial policy = ⟨steps, none⟩ := run_eq hbefore
    rw [execute, hrun_take]
    rfl
  refine ⟨s.report initial steps, hcompleted, ?_, ?_⟩
  · rw [Except.ok.inj (hcompleted.symm.trans hok)]
    exact finalValue_report htrail
  · rw [execute, run_eq hrun, hlength]

/-- A script fails exactly if one of its operations is rejected. -/
theorem fails_iff_rejects (s : Script) (initial : Int64) (policy : SqrtPolicy) :
    (∃ f, s.execute initial policy = .error f) ↔ ∃ k e, s.Rejects initial policy k e := by
  rcases Operation.accepted_or_rejected policy initial s.operations with
    h | ⟨k, op, e, hk, hbefore, he⟩
  · obtain ⟨steps, hok, -⟩ := execute_of_accepted h
    constructor
    · rintro ⟨f, hf⟩
      rw [hok] at hf
      cases hf
    · rintro ⟨k, e, hrejects⟩
      cases k with
      | zero => cases hrejects
      | succ k =>
        obtain ⟨op, hop, he⟩ := rejects_succ_iff.1 hrejects
        rw [(Operation.accepted_iff policy initial s.operations).1 h k op hop] at he
        cases he
  · obtain ⟨completed, -, -, herror⟩ := execute_of_rejected hk hbefore he
    exact ⟨fun _ => ⟨k + 1, e, rejects_succ_iff.2 ⟨op, hk, he⟩⟩, fun _ => ⟨_, herror⟩⟩

/-- The first rejected operation is the one that a failure names. -/
theorem execute_of_least {s : Script} {initial : Int64} {policy : SqrtPolicy} {k : Nat}
    {e : CalcError} (h : s.Rejects initial policy k e)
    (hleast : ∀ j < k, ∀ e', ¬s.Rejects initial policy j e') :
    ∃ op completed, s.operations[k - 1]? = some op ∧
      (s.take (k - 1)).execute initial policy = .ok completed ∧
      completed.finalValue = accumulator initial (s.operations.take (k - 1)) ∧
      s.execute initial policy = .error ⟨k, op.render, e, completed⟩ := by
  cases k with
  | zero => cases h
  | succ k =>
    obtain ⟨op, hop, he⟩ := rejects_succ_iff.1 h
    have hbefore : Accepted policy initial (s.operations.take k) :=
      accepted_take fun j hj => hleast j (Nat.lt_succ_of_le hj)
    obtain ⟨completed, hok, hfinal, herror⟩ := execute_of_rejected hop hbefore he
    exact ⟨op, completed, hop, hok, hfinal, herror⟩

/-- What a script says: it fails exactly if one of its operations is rejected, at the first of
them and with the report of the operations before it; otherwise it has a step for every one. -/
theorem execute_outcome (s : Script) (initial : Int64) (policy : SqrtPolicy) :
    ((∃ f, s.execute initial policy = .error f) ↔ ∃ k e, s.Rejects initial policy k e) ∧
    (∀ k e, s.Rejects initial policy k e → (∀ j < k, ∀ e', ¬s.Rejects initial policy j e') →
      ∃ op completed, s.operations[k - 1]? = some op ∧
        (s.take (k - 1)).execute initial policy = .ok completed ∧
        completed.finalValue = accumulator initial (s.operations.take (k - 1)) ∧
        s.execute initial policy = .error ⟨k, op.render, e, completed⟩) ∧
    ((∀ k e, ¬s.Rejects initial policy k e) →
      ∃ r, s.execute initial policy = .ok r ∧ r.variant = s.variant ∧ r.initial = initial ∧
        r.steps.map (·.operation) = s.operations.map Operation.render ∧
        (∀ (i : Nat) (step : Step), r.steps[i]? = some step →
          step.value = accumulator initial (s.operations.take (i + 1))) ∧
        (∀ step, r.steps.getLast? = some step → r.finalValue = step.value) ∧
        (s.operations = [] → r.finalValue = initial)) := by
  refine ⟨s.fails_iff_rejects initial policy, fun k e => execute_of_least, fun h => ?_⟩
  have haccepted : Accepted policy initial s.operations := by
    have htake := accepted_take (k := s.operations.length) fun j _ => h j
    rwa [List.take_length] at htake
  obtain ⟨steps, hok, htrail⟩ := execute_of_accepted haccepted
  refine ⟨_, hok, rfl, rfl, operations_of_trail htrail, ?_, ?_, ?_⟩
  · intro i step hstep
    have hi : (Operation.trail initial s.operations)[i]? = some (step.operation, step.value) := by
      rw [← htrail, List.getElem?_map]
      rw [show steps[i]? = some step from hstep]
      rfl
    exact Operation.snd_trail hi
  · intro step hlast
    change (steps.getLast?.map _).getD initial = step.value
    rw [show steps.getLast? = some step from hlast]
    rfl
  · intro hnil
    rw [finalValue_report htrail, hnil]
    rfl

/-- A square root that is not the last operation. -/
theorem execute_outcome_negative_root :
    ∃ f : Failure,
      (⟨.scientific, [.subtract 5, .squareRoot, .add 1], by decide⟩ : Script).execute 2 .error =
        .error f ∧ f.step = 2 ∧ f.operation = "sqrt" ∧ f.source = .negativeSquareRoot (-3) ∧
      f.completed.finalValue = -3 := by
  obtain ⟨-, hfirst, -⟩ :=
    execute_outcome ⟨.scientific, [.subtract 5, .squareRoot, .add 1], by decide⟩ 2 .error
  have hbefore : ∀ j < 2, ∀ e, ¬Rejects
      ⟨.scientific, [.subtract 5, .squareRoot, .add 1], by decide⟩ 2 .error j e := by
    rintro j hj e (⟨hop⟩ | ⟨hop, -, -⟩)
    · cases Nat.lt_one_iff.1 (Nat.lt_of_succ_lt_succ hj)
      cases hop
    · cases Nat.lt_one_iff.1 (Nat.lt_of_succ_lt_succ hj)
      cases hop
  obtain ⟨op, completed, hop, -, hfinal, herror⟩ :=
    hfirst 2 (.negativeSquareRoot (-3)) (.squareRoot rfl rfl (by decide)) hbefore
  cases hop
  exact ⟨_, herror, rfl, rfl, rfl, hfinal.trans (by decide)⟩

end Script

end Abacus
