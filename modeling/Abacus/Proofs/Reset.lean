import Abacus.Proofs.Runs

/-!
# What a reset forgets

A reset takes a machine back to a fresh one of its variant and policy, with the log that it has
(`Machine.reset_eq`). The log holds an entry for each addition and subtraction
(`Machine.Passes.log_eq`), and nothing but a history shows it: a machine that remembers entries from
before takes the steps of one that does not, and shows these entries in front of the others
(`Machine.carries_recalling`).

So what comes behind a reset is what a fresh calculator would do, on the advanced variant with the
earlier entries in front of each history (`Script.execute_reset`).
-/

namespace Abacus

/-! ## Logs -/

namespace Operation

/-- The entry that the operation leaves in a log. -/
def entry? : Operation → Option String
  | add n => some (AdvancedCalculator.addEntry n)
  | subtract n => some (AdvancedCalculator.subtractEntry n)
  | _ => none

/-- The entries that operations leave on a calculator of the variant. Only the advanced one has a
log. -/
def entries (variant : Variant) (ops : List Operation) : List String :=
  match variant with
  | .advanced => ops.filterMap entry?
  | .basic | .scientific => []

@[simp] theorem entries_nil (variant : Variant) : entries variant [] = [] := by
  cases variant <;> rfl

theorem entries_cons (variant : Variant) (op : Operation) (ops : List Operation) :
    entries variant (op :: ops) = entries variant [op] ++ entries variant ops := by
  cases variant with
  | basic | scientific => rfl
  | advanced => exact List.filterMap_append (l := [op])

end Operation

/-- An output on a calculator with these entries in front of its log. -/
def Output.behind (entries : List String) : Output → Output
  | history own => history (entries ++ own)
  | output => output

theorem Output.behind_nil : Output.behind [] = id := by
  funext output
  cases output <;> rfl

namespace Machine

open Operation (entries)

variable {m m' : Machine} {op : Operation} {ops : List Operation} {steps : List Step}
  {output : Option Output} {policy : SqrtPolicy}

/-- The log of a machine, empty if its kind has none. -/
def log : Machine → List String
  | advanced c => c.history
  | _ => []

/-- The machine with entries in front of its log, if its kind has one. -/
def recalling (es : List String) : Machine → Machine
  | advanced c => advanced { c with history := es ++ c.history }
  | m => m

theorem value_recalling (es : List String) (m : Machine) : (m.recalling es).value = m.value := by
  cases m <;> rfl

theorem add_recalling (es : List String) (m : Machine) (n : Int64) :
    (m.recalling es).add n = (m.add n).recalling es := by
  cases m with
  | basic | scientific => rfl
  | advanced c =>
    simp only [recalling, add, AdvancedCalculator.add, AdvancedCalculator.log, List.append_assoc]

theorem subtract_recalling (es : List String) (m : Machine) (n : Int64) :
    (m.recalling es).subtract n = (m.subtract n).recalling es := by
  cases m with
  | basic | scientific => rfl
  | advanced c =>
    simp only [recalling, subtract, AdvancedCalculator.subtract, AdvancedCalculator.log,
      List.append_assoc]

/-- Entries in front of the log show in a history and nowhere else. -/
theorem carries_recalling (es : List String) (m : Machine) (op : Operation) :
    Carries (recalling es) (Output.behind es) m op := by
  cases op with
  | add n =>
    rw [Carries, step?, add_recalling]
    rfl
  | subtract n =>
    rw [Carries, step?, subtract_recalling]
    rfl
  | divide n => exact carries_divide (by cases m <;> rfl) fun _ => rfl
  | squareRoot =>
    cases m with
    | basic | advanced => rfl
    | scientific c =>
      simp only [Carries, recalling, step?]
      cases c.squareRoot <;> rfl
  | multiply | value | reset | storeMemory | recallMemory | clearMemory | history =>
    cases m <;> rfl

theorem run?_recalling (es : List String) (m : Machine) (ops : List Operation) :
    (m.recalling es).run? ops = (m.run? ops).map (Run.mapOutput (Output.behind es)) :=
  run?_map (p := fun _ => True) (value_recalling es) (fun m op _ => carries_recalling es m op) m
    fun _ _ => trivial

/-- An operation enters what it leaves in a log at the end. -/
theorem log_after (m : Machine) (op : Operation) :
    (m.after op).log = m.log ++ entries m.variant [op] := by
  cases m with
  | basic | scientific => cases op <;> rfl
  | advanced c =>
    cases op with
    | add | subtract => rfl
    | _ => exact (List.append_nil c.history).symm

/-- The log has grown by the entries of the operations. -/
theorem Passes.log_eq (h : m.Passes ops steps m') : m'.log = m.log ++ entries m.variant ops := by
  induction h with
  | nil => rw [Operation.entries_nil, List.append_nil]
  | cons hstep _ ih =>
    rw [ih, variant_of_step? hstep, eq_after_of_step? hstep, log_after, List.append_assoc,
      ← Operation.entries_cons]

theorem log_start (variant : Variant) (initial : Int64) (policy : SqrtPolicy) :
    (start variant initial policy).log = [] := by
  cases variant <;> rfl

/-- A reset leaves a fresh machine, but for the log. -/
theorem reset_eq (h : m.HasPolicy policy) :
    m.reset = (start m.variant 0 policy).recalling m.log := by
  cases m with
  | basic c => rfl
  | scientific c =>
    have hpolicy : c.sqrtPolicy = policy := h
    rw [← hpolicy]
    rfl
  | advanced c =>
    have hlog : ((start .advanced 0 policy).recalling c.history) =
        advanced ⟨c.base.reset, c.history ++ []⟩ := rfl
    rw [List.append_nil] at hlog
    exact hlog.symm

/-- After a pass from a fresh machine the log that a reset leaves is that of the operations. -/
theorem Passes.reset_eq {variant : Variant} {initial : Int64}
    (h : (start variant initial policy).Passes ops steps m) :
    m.reset = (start variant 0 policy).recalling (entries variant ops) := by
  have hvariant : m.variant = variant := h.variant_eq.trans (variant_start variant initial policy)
  have hlog : m.log = entries variant ops := by
    rw [h.log_eq, log_start, List.nil_append, variant_start]
  rw [Machine.reset_eq (h.hasPolicy (hasPolicy_start variant initial policy)), hvariant, hlog]

end Machine

/-! ## Scripts -/

/-- Steps as they show on a calculator that did these operations before its last reset: the
histories of the advanced variant start with the entries of these operations. -/
def Step.afterReset (variant : Variant) (before : List Operation) (steps : List Step) : List Step :=
  match variant with
  | .basic | .scientific => steps
  | .advanced => steps.map (mapOutput (Output.behind (before.filterMap Operation.entry?)))

theorem Step.afterReset_eq (variant : Variant) (before : List Operation) (steps : List Step) :
    afterReset variant before steps =
      steps.map (mapOutput (Output.behind (Operation.entries variant before))) := by
  cases variant with
  | basic | scientific => rw [Operation.entries, Output.behind_nil, mapOutput_id, List.map_id]; rfl
  | advanced => rfl

theorem Step.length_afterReset (variant : Variant) (before : List Operation)
    (steps : List Step) : (afterReset variant before steps).length = steps.length := by
  rw [afterReset_eq, List.length_map]

theorem lastValue_afterReset (variant : Variant) (before : List Operation) (v : Int64)
    (steps : List Step) :
    lastValue v (Step.afterReset variant before steps) = lastValue v steps := by
  rw [Step.afterReset_eq, lastValue_mapOutput]

namespace Script

/-- The operations of a script, a reset, and the operations of another script for the variant. -/
def resetBetween (s t : Script) (h : t.variant = s.variant) : Script where
  variant := s.variant
  operations := s.operations ++ .reset :: t.operations
  supported := List.forall_mem_append.2
    ⟨s.supported, List.forall_mem_cons.2 ⟨rfl, fun op hop => h ▸ t.supported op hop⟩⟩

variable {s t : Script} {initial : Int64} {policy : SqrtPolicy}

/-- The run of a script behind operations that were carried out and a reset. -/
theorem run?_resetBetween {steps : List Step} {r : Machine.Run} (h : t.variant = s.variant)
    (hbefore : (s.machine initial policy).run? s.operations = some ⟨steps, none⟩)
    (hfresh : (t.machine 0 policy).run? t.operations = some r) :
    ((s.resetBetween t h).machine initial policy).run? (s.resetBetween t h).operations = some
      ⟨steps ++ ⟨"reset", 0, none⟩ :: Step.afterReset s.variant s.operations r.steps, r.stop⟩ := by
  rw [machine, h] at hfresh
  obtain ⟨m, hm⟩ := Machine.passes_of_run? hbefore
  have hvalue : m.reset.value = 0 := by
    rw [hm.reset_eq, Machine.value_recalling, Machine.value_start]
  have hrest : m.reset.run? t.operations =
      some (r.mapOutput (Output.behind (Operation.entries s.variant s.operations))) := by
    rw [hm.reset_eq, Machine.run?_recalling, hfresh]
    rfl
  have hreset : m.run? (.reset :: t.operations) = some
      ⟨⟨"reset", 0, none⟩ :: Step.afterReset s.variant s.operations r.steps, r.stop⟩ := by
    rw [Machine.run?]
    simp only [Machine.step?, hrest, hvalue, Step.afterReset_eq]
    rfl
  have hwhole := hm.run?_append (.reset :: t.operations)
  rw [hreset] at hwhole
  exact hwhole

/-- What a script does behind a reset is what the rest of it does on a fresh calculator from zero:
the steps are the same, but for the entries of the operations before the reset in front of each
history of the advanced variant, and so are the last value and the failure, if there is one. -/
theorem execute_reset (s t : Script) (h : t.variant = s.variant) {initial : Int64}
    {policy : SqrtPolicy} {r : Report} (hr : s.execute initial policy = .ok r) :
    r.steps.length = s.operations.length ∧
    (∀ fresh, t.execute 0 policy = .ok fresh →
      (s.resetBetween t h).execute initial policy = .ok
        ⟨s.variant, initial, r.steps ++ ⟨"reset", 0, none⟩ ::
          Step.afterReset s.variant s.operations fresh.steps, fresh.finalValue⟩) ∧
    ∀ fresh, t.execute 0 policy = .error fresh →
      (s.resetBetween t h).execute initial policy = .error
        ⟨s.operations.length + 1 + fresh.step, fresh.operation, fresh.source,
          ⟨s.variant, initial, r.steps ++ ⟨"reset", 0, none⟩ ::
            Step.afterReset s.variant s.operations fresh.completed.steps,
            fresh.completed.finalValue⟩⟩ := by
  obtain ⟨steps, hbefore, rfl⟩ := execute_eq_ok.1 hr
  obtain ⟨m, hm⟩ := Machine.passes_of_run? hbefore
  have hlast (later : List Step) : lastValue initial (steps ++ ⟨"reset", 0, none⟩ ::
      Step.afterReset s.variant s.operations later) = lastValue 0 later := by
    rw [lastValue_append, lastValue_cons, lastValue_afterReset]
  refine ⟨hm.length_eq, ?_, ?_⟩
  · intro fresh hfresh
    obtain ⟨later, hlater, rfl⟩ := execute_eq_ok.1 hfresh
    refine execute_eq_ok.2 ⟨_, run?_resetBetween h hbefore hlater, ?_⟩
    rw [report_eq (s.resetBetween t h), hlast]
    rfl
  · intro fresh hfresh
    obtain ⟨later, op, e, hlater, rfl⟩ := execute_eq_error.1 hfresh
    refine execute_eq_error.2 ⟨_, op, e, run?_resetBetween h hbefore hlater, ?_⟩
    have hstep : (steps ++ ⟨"reset", 0, none⟩ ::
        Step.afterReset s.variant s.operations later).length + 1 =
          s.operations.length + 1 + (later.length + 1) := by
      rw [List.length_append, List.length_cons, Step.length_afterReset, hm.length_eq]
      omega
    rw [report_eq (s.resetBetween t h), hlast, hstep]
    rfl

/-- A history that shows what was entered before the reset, and a failure behind it. -/
theorem execute_reset_history :
    (⟨.advanced, [.add 5, .subtract 2, .reset, .add 1, .history, .divide 0], by decide⟩ :
        Script).execute 10 .error = .error ⟨6, "div:0", .divisionByZero, ⟨.advanced, 10,
      [⟨"add:5", 15, none⟩, ⟨"sub:2", 13, none⟩, ⟨"reset", 0, none⟩, ⟨"add:1", 1, none⟩,
        ⟨"history", 1, some (.history ["add 5", "subtract 2", "add 1"])⟩], 1⟩⟩ := by
  have hbefore : (⟨.advanced, [.add 5, .subtract 2], by decide⟩ : Script).execute 10 .error =
      .ok ⟨.advanced, 10, [⟨"add:5", 15, none⟩, ⟨"sub:2", 13, none⟩], 13⟩ := rfl
  have hfresh : (⟨.advanced, [.add 1, .history, .divide 0], by decide⟩ : Script).execute 0 .error =
      .error ⟨3, "div:0", .divisionByZero, ⟨.advanced, 0,
        [⟨"add:1", 1, none⟩, ⟨"history", 1, some (.history ["add 1"])⟩], 1⟩⟩ := rfl
  obtain ⟨-, -, herror⟩ := execute_reset ⟨.advanced, [.add 5, .subtract 2], by decide⟩
    ⟨.advanced, [.add 1, .history, .divide 0], by decide⟩ rfl hbefore
  exact herror _ hfresh

end Script

end Abacus
