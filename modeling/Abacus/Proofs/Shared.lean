import Abacus.Proofs.Runs
import Abacus.Proofs.Validation

/-!
# What all calculators have in common

Every kind of calculator adds, subtracts, multiplies, divides, shows its value and is reset. What it
keeps beside the accumulator does not show in any of this: a machine that is stripped of it
(`Machine.bare`) takes the same steps (`Machine.carries_bare`), and runs in step with the machine it
was (`Machine.run?_bare`). Fresh machines of all variants are the same when they are stripped, so a
script of such operations comes to the same on each of them, whatever is done about square roots
(`Script.execute_shared`).
-/

namespace Abacus

namespace Operation

/-- Every kind of calculator knows the operation. -/
def isShared : Operation → Bool
  | add _ | subtract _ | multiply _ | divide _ | value | reset => true
  | _ => false

theorem supports_of_isShared {op : Operation} (h : op.isShared = true) (variant : Variant) :
    variant.supports op = true := by
  cases op <;> first | rfl | cases h

end Operation

namespace Machine

/-- The machine without what it keeps beside the accumulator. -/
def bare (m : Machine) : Machine := basic ⟨m.value⟩

theorem bare_start (variant : Variant) (initial : Int64) (policy : SqrtPolicy) :
    (start variant initial policy).bare = basic ⟨initial⟩ := by
  rw [bare, value_start]

/-- A shared operation does not see what is stripped off. -/
theorem carries_bare (m : Machine) {op : Operation} (h : op.isShared = true) :
    Carries bare id m op := by
  cases op with
  | add | subtract | multiply | value | reset => cases m <;> rfl
  | divide n => exact carries_divide (by cases m <;> rfl) fun _ => rfl
  | storeMemory | recallMemory | clearMemory | squareRoot | history => cases h

theorem run?_bare (m : Machine) {ops : List Operation}
    (h : ∀ op ∈ ops, op.isShared = true) : m.bare.run? ops = m.run? ops := by
  have hrun := run?_map (g := bare) (p := fun op => op.isShared = true) (fun _ => rfl)
    (fun m _ hop => carries_bare m hop) m h
  rw [hrun, Run.mapOutput_id, Option.map_id_fun, id_eq]

end Machine

namespace Script

/-- Shared operations make a script for every variant, and all of these scripts end alike: they
complete with the same steps, or fail at the same step, for the same reason and with the same steps
before it. -/
theorem execute_shared {ops : List Operation} (h : ∀ op ∈ ops, op.isShared = true)
    (initial : Int64) (policy : Variant → SqrtPolicy) :
    ∃ script : Variant → Script, (∀ v, ofOperations v ops = .ok (script v)) ∧
      ((∃ steps final, ∀ v,
          (script v).execute initial (policy v) = .ok ⟨v, initial, steps, final⟩) ∨
        ∃ k text e steps final, ∀ v,
          (script v).execute initial (policy v) =
            .error ⟨k, text, e, ⟨v, initial, steps, final⟩⟩) := by
  have hsupported : ∀ v : Variant, ∀ op ∈ ops, v.supports op = true :=
    fun v op hop => Operation.supports_of_isShared (h op hop) v
  refine ⟨fun v => ⟨v, ops, hsupported v⟩,
    fun v => ofOperations_of_supported ⟨v, ops, hsupported v⟩, ?_⟩
  -- All of them have the run of the bare machine.
  obtain ⟨⟨steps, stop⟩, hbare⟩ : ∃ r, (Machine.basic ⟨initial⟩).run? ops = some r :=
    Option.isSome_iff_exists.1 (Machine.isSome_run? (hsupported .basic))
  have hrun : ∀ v, (Machine.start v initial (policy v)).run? ops = some ⟨steps, stop⟩ := by
    intro v
    rw [← Machine.run?_bare _ h, Machine.bare_start, hbare]
  rcases stop with - | ⟨op, e⟩
  · exact .inl ⟨steps, _, fun v => execute_eq_ok.2 ⟨steps, hrun v, rfl⟩⟩
  · exact .inr ⟨_, _, _, steps, _, fun v => execute_eq_error.2 ⟨steps, op, e, hrun v, rfl⟩⟩

/-- A division by zero, behind a reset that clears something else on every variant. -/
theorem execute_shared_division :
    ∃ script : Variant → Script,
      (∀ v, ofOperations v [.add 5, .reset, .subtract 7, .divide 0] = .ok (script v)) ∧
      ∀ v, (script v).execute 3 .nan = .error ⟨4, "div:0", .divisionByZero,
        ⟨v, 3, [⟨"add:5", 8, none⟩, ⟨"reset", 0, none⟩, ⟨"sub:7", -7, none⟩], -7⟩⟩ := by
  have hshared : ∀ op ∈ [Operation.add 5, .reset, .subtract 7, .divide 0],
      op.isShared = true := by
    decide
  obtain ⟨script, hscript, houtcome⟩ := execute_shared hshared 3 fun _ => .nan
  have hbasic : (script .basic).execute 3 .nan = .error ⟨4, "div:0", .divisionByZero,
      ⟨.basic, 3, [⟨"add:5", 8, none⟩, ⟨"reset", 0, none⟩, ⟨"sub:7", -7, none⟩], -7⟩⟩ := by
    rw [← Except.ok.inj (hscript .basic)]
    rfl
  refine ⟨script, hscript, fun v => ?_⟩
  rcases houtcome with ⟨steps, final, hok⟩ | ⟨k, text, e, steps, final, herror⟩
  · rw [hok .basic] at hbasic
    cases hbasic
  · rw [herror .basic] at hbasic
    cases hbasic
    exact herror v

end Script

end Abacus
