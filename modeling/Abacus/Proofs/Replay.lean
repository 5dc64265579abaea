import Abacus.Proofs.Operation
import Abacus.Proofs.Validation

/-!
# Reports can be run again

The canonical text of an operation is read as that operation, so the canonical texts of a script are
read as that script (`Script.parse_render`). A report names its steps by these texts. What it tells
is the whole run of some script, be it the one that ran or as much of it as came before the rejected
operation (`Script.Reports.exists_script`); so the texts of its steps, run again, give the report
again (`Script.replay`).
-/

namespace Abacus

theorem Operation.parse_render (op : Operation) : parse op.render = .ok op :=
  parse_of_reads (reads_render op)

namespace Script

/-- The canonical texts of a script are read as that script. -/
theorem parse_render (s : Script) :
    parse s.variant (s.operations.map Operation.render) = .ok s := by
  refine parse_of_verdict (.accepted ?_ rfl)
  rw [List.map_map]
  exact List.map_congr_left fun op _ => op.parse_render

/-- A report of a run: that of the whole run, or of what came before a rejected operation. -/
inductive Reports (s : Script) (initial : Int64) (policy : SqrtPolicy) : Report → Prop
  | whole {r : Report} : s.execute initial policy = .ok r → Reports s initial policy r
  | completed {f : Failure} : s.execute initial policy = .error f →
      Reports s initial policy f.completed

/-- A report of a whole run names the operations of the script. -/
theorem operations_of_execute {s : Script} {initial : Int64} {policy : SqrtPolicy} {r : Report}
    (h : s.execute initial policy = .ok r) : r.variant = s.variant ∧ r.initial = initial ∧
      r.steps.map (·.operation) = s.operations.map Operation.render := by
  rcases Operation.accepted_or_rejected policy initial s.operations with
    haccepted | ⟨k, op, e, hk, hbefore, he⟩
  · obtain ⟨steps, hok, htrail⟩ := execute_of_accepted haccepted
    rw [hok] at h
    cases h
    exact ⟨rfl, rfl, operations_of_trail htrail⟩
  · obtain ⟨completed, -, -, herror⟩ := execute_of_rejected hk hbefore he
    rw [herror] at h
    cases h

/-- Every report is that of the whole run of a script. -/
theorem Reports.exists_script {s : Script} {initial : Int64} {policy : SqrtPolicy} {r : Report}
    (h : s.Reports initial policy r) : ∃ s' : Script, s'.execute initial policy = .ok r := by
  cases h with
  | whole h => exact ⟨s, h⟩
  | completed h =>
    rcases Operation.accepted_or_rejected policy initial s.operations with
      haccepted | ⟨k, op, e, hk, hbefore, he⟩
    · obtain ⟨steps, hok, -⟩ := execute_of_accepted haccepted
      rw [hok] at h
      cases h
    · obtain ⟨completed, hok, -, herror⟩ := execute_of_rejected hk hbefore he
      rw [herror] at h
      cases h
      exact ⟨s.take k, hok⟩

/-- Canonical texts are read as what they were written for, and the steps of any report, read as a
script and run again from the same value, give that report again. -/
theorem replay :
    (∀ op : Operation, Operation.parse op.render = .ok op) ∧
    (∀ s : Script, parse s.variant (s.operations.map Operation.render) = .ok s) ∧
    ∀ (s : Script) (initial : Int64) (policy : SqrtPolicy) (r : Report),
      s.Reports initial policy r →
        ∃ s' : Script, parse r.variant (r.steps.map (·.operation)) = .ok s' ∧
          s'.execute r.initial policy = .ok r := by
  refine ⟨Operation.parse_render, parse_render, ?_⟩
  intro s initial policy r h
  obtain ⟨s', hs'⟩ := h.exists_script
  obtain ⟨hvariant, hinitial, hoperations⟩ := operations_of_execute hs'
  refine ⟨s', ?_, ?_⟩
  · rw [hvariant, hoperations]
    exact s'.parse_render
  · rw [hinitial]
    exact hs'

/-- What came before a division by zero, with the least integer as an operand. -/
theorem replay_before_division :
    ∃ f : Failure,
      (⟨.advanced, [.subtract Int64.minValue, .history, .divide 0, .add 1], by decide⟩ :
        Script).execute (-3) .error = .error f ∧
      f.completed.steps.map (·.operation) = ["sub:-9223372036854775808", "history"] ∧
      ∃ s' : Script,
        parse .advanced ["sub:-9223372036854775808", "history"] = .ok s' ∧
          s'.execute (-3) .error = .ok f.completed := by
  refine ⟨_, rfl, rfl, ?_⟩
  exact replay.2.2 ⟨.advanced, [.subtract Int64.minValue, .history, .divide 0, .add 1], by decide⟩
    (-3) .error _ (.completed rfl)

end Script

end Abacus
