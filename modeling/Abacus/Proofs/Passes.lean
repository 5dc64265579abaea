import Abacus.Script

/-!
# Runs in parts

A run of one list of operations behind another is the run of the second on the machine that the
first leaves behind (`Machine.Passes.run?_append`). That machine is the end of a *pass*, which
carries out every operation of a list; each run is a pass and, if it stopped, the operation that was
rejected behind it (`Machine.passes_of_stop`).
-/

namespace Abacus

namespace Machine

/-- A run that tells of earlier steps as well. -/
def Run.behind (steps : List Step) (r : Run) : Run := { r with steps := steps ++ r.steps }

/-- The machine carries out every one of the operations, by these steps, and is the last machine
then. -/
inductive Passes : Machine → List Operation → List Step → Machine → Prop
  | nil (m : Machine) : Passes m [] [] m
  | cons {m next last : Machine} {op : Operation} {rest : List Operation} {output : Option Output}
      {steps : List Step} : m.step? op = some (.ok (next, output)) → Passes next rest steps last →
      Passes m (op :: rest) (⟨op.render, next.value, output⟩ :: steps) last

variable {m m' : Machine} {ops xs : List Operation} {op : Operation} {steps : List Step}
  {e : CalcError}

theorem Passes.length_eq (h : m.Passes xs steps m') : steps.length = xs.length := by
  induction h with
  | nil => rfl
  | cons _ _ ih => rw [List.length_cons, List.length_cons, ih]

theorem Passes.variant_eq (h : m.Passes xs steps m') : m'.variant = m.variant := by
  induction h with
  | nil => rfl
  | cons hstep _ ih => rw [ih, variant_of_step? hstep]

/-- A step of a pass was taken by the machine behind the pass of the operations before it. -/
theorem Passes.exists_step (h : m.Passes xs steps m') {i : Nat} {step : Step}
    (hi : steps[i]? = some step) : ∃ (op : Operation) (before next : Machine), xs[i]? = some op ∧
      m.Passes (xs.take i) (steps.take i) before ∧
      before.step? op = some (.ok (next, step.output)) ∧ step.operation = op.render ∧
      step.value = next.value := by
  induction h generalizing i with
  | nil => cases hi
  | @cons m next last op rest output steps hstep _ ih =>
    cases i with
    | zero =>
      cases hi
      exact ⟨op, m, next, rfl, .nil m, hstep, rfl, rfl⟩
    | succ i =>
      obtain ⟨op', before, next', hop', hbefore, hstep', hname, hvalue⟩ := ih hi
      exact ⟨op', before, next', hop', .cons hstep hbefore, hstep', hname, hvalue⟩

/-- Behind a pass the run goes on where the pass ended. -/
theorem Passes.run?_append (h : m.Passes xs steps m') (ys : List Operation) :
    m.run? (xs ++ ys) = (m'.run? ys).map (Run.behind steps) := by
  induction h with
  | nil m => exact (Option.map_id_apply).symm
  | cons hstep _ ih =>
    rw [List.cons_append, run?, hstep]
    simp only [ih, Option.map_map]
    rfl

/-- What a run ends with behind its steps: nothing more, or an operation that is rejected. -/
def EndsBehind (ops xs : List Operation) (m : Machine) : Option (Operation × CalcError) → Prop
  | none => ops = xs
  | some (op, e) => ∃ ys, ops = xs ++ op :: ys ∧ m.step? op = some (.error e)

/-- The steps of a run are a pass. -/
theorem exists_passes {stop : Option (Operation × CalcError)}
    (h : m.run? ops = some ⟨steps, stop⟩) :
    ∃ xs m', m.Passes xs steps m' ∧ EndsBehind ops xs m' stop := by
  induction ops generalizing m steps with
  | nil =>
    cases h
    exact ⟨[], m, .nil m, rfl⟩
  | cons first rest ih =>
    rw [run?] at h
    rcases hstep : m.step? first with - | (e | ⟨next, output⟩)
    · rw [hstep] at h
      cases h
    · rw [hstep] at h
      cases h
      exact ⟨[], m, .nil m, rest, rfl, hstep⟩
    · rw [hstep] at h
      obtain ⟨⟨later, stop'⟩, hlater, hr⟩ := Option.map_eq_some_iff.1 h
      cases hr
      obtain ⟨xs, m', hpasses, hends⟩ := ih hlater
      refine ⟨first :: xs, m', .cons hstep hpasses, ?_⟩
      cases stop' with
      | none => exact congrArg _ hends
      | some rejected =>
        obtain ⟨ys, rfl, hrejected⟩ := hends
        exact ⟨ys, rfl, hrejected⟩

/-- A run that does not stop is a pass, ... -/
theorem passes_of_run? (h : m.run? ops = some ⟨steps, none⟩) : ∃ m', m.Passes ops steps m' := by
  obtain ⟨xs, m', hpasses, rfl⟩ := exists_passes h
  exact ⟨m', hpasses⟩

/-- ... and one that stops is a pass up to an operation that is rejected. -/
theorem passes_of_stop (h : m.run? ops = some ⟨steps, some (op, e)⟩) :
    ∃ xs ys m', ops = xs ++ op :: ys ∧ m.Passes xs steps m' ∧ m'.step? op = some (.error e) := by
  obtain ⟨xs, m', hpasses, ys, rfl, hrejected⟩ := exists_passes h
  exact ⟨xs, ys, m', rfl, hpasses, hrejected⟩

theorem Passes.run?_eq (h : m.Passes xs steps m') : m.run? xs = some ⟨steps, none⟩ := by
  have happend := h.run?_append []
  rw [List.append_nil] at happend
  rw [happend]
  simp [run?, Run.behind]

theorem Passes.run?_stop (h : m.Passes xs steps m') (hop : m'.step? op = some (.error e))
    (ys : List Operation) : m.run? (xs ++ op :: ys) = some ⟨steps, some (op, e)⟩ := by
  rw [h.run?_append, run?, hop]
  simp [Run.behind]

end Machine

end Abacus
