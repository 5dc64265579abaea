import Abacus.Proofs.Runs

/-!
# What the policy of square roots influences

The policy is read by square roots alone, and by these only below zero: any other step is the same
under both policies (`Machine.carries_withPolicy`). So a run under the policy that forbids roots of
negative values goes on under the other one up to such a root, and what it was rejected for before
that it is rejected for then (`Machine.Passes.withPolicy`).

At such a root the runs part. The one that may take it shows a NaN, keeps the machine as it is and
does next what it would do if the root were not there (`Script.execute_policy`).
-/

namespace Abacus

namespace Machine

variable {m m' : Machine} {op : Operation} {ops : List Operation} {steps : List Step}
  {output : Option Output} {policy : SqrtPolicy} {e : CalcError}

/-- The machine under another policy, if its kind has one. -/
def withPolicy (policy : SqrtPolicy) : Machine → Machine
  | scientific c => scientific (c.withSqrtPolicy policy)
  | m => m

theorem value_withPolicy (policy : SqrtPolicy) (m : Machine) :
    (m.withPolicy policy).value = m.value := by
  cases m <;> rfl

theorem withPolicy_start (policy policy' : SqrtPolicy) (variant : Variant) (initial : Int64) :
    (start variant initial policy).withPolicy policy' = start variant initial policy' := by
  cases variant <;> rfl

/-- Only a root of a negative value depends on the policy. -/
theorem carries_withPolicy (policy : SqrtPolicy) (m : Machine) {op : Operation}
    (h : op = .squareRoot → ¬m.value < 0) : Carries (withPolicy policy) id m op := by
  cases op with
  | divide n => exact carries_divide (by cases m <;> rfl) fun _ => rfl
  | squareRoot =>
    cases m with
    | basic | advanced => rfl
    | scientific c =>
      have hroot (c : ScientificCalculator) (hc : ¬c.value < 0) :
          c.squareRoot = .ok (nearestDouble c.value).sqrt := if_neg hc
      simp only [Carries, withPolicy, step?]
      rw [hroot c (h rfl), hroot (c.withSqrtPolicy policy) (h rfl)]
      rfl
  | add | subtract | multiply | value | reset | storeMemory | recallMemory | clearMemory |
      history =>
    cases m <;> rfl

/-- Where roots of negative values are forbidden, a root that is taken is of another value. -/
theorem not_neg_of_step? (hp : m.HasPolicy .error)
    (h : m.step? .squareRoot = some (.ok (m', output))) : ¬m.value < 0 := by
  intro hneg
  cases m with
  | basic | advanced => cases h
  | scientific c =>
    have hpolicy : c.sqrtPolicy = .error := hp
    have hvalue : c.value < 0 := hneg
    have hroot : c.squareRoot = .error (.negativeSquareRoot c.value) := by
      rw [ScientificCalculator.squareRoot, if_pos hvalue, hpolicy]
    rw [step?, hroot] at h
    cases h

/-- What passes where roots of negative values are forbidden passes under any policy. -/
theorem Passes.withPolicy (h : m.Passes ops steps m') (hp : m.HasPolicy .error)
    (policy : SqrtPolicy) : (m.withPolicy policy).Passes ops steps (m'.withPolicy policy) := by
  induction h with
  | nil m => exact .nil _
  | @cons m next last op rest output steps hstep _ ih =>
    have hkept : (m.withPolicy policy).step? op =
        some (.ok (next.withPolicy policy, output)) := by
      have hnotneg : op = .squareRoot → ¬m.value < 0 := by
        rintro rfl
        exact not_neg_of_step? hp hstep
      have hcarried := (carries_withPolicy policy m hnotneg).step?_eq_ok hstep
      rwa [Option.map_id_fun, id_eq] at hcarried
    have hnext : next.HasPolicy .error := by
      rw [eq_after_of_step? hstep]
      exact hasPolicy_after hp op
    rw [← value_withPolicy policy next]
    exact .cons hkept (ih hnext)

/-- A division by zero is rejected under any policy. -/
theorem step?_withPolicy_of_division (policy : SqrtPolicy)
    (h : m.step? op = some (.error .divisionByZero)) :
    (m.withPolicy policy).step? op = some (.error .divisionByZero) := by
  have hnotroot : op ≠ .squareRoot := by
    rintro rfl
    rcases rejected_cases h with ⟨hop, -⟩ | ⟨-, he, -⟩
    · cases hop
    · cases he
  exact (carries_withPolicy policy m fun hop => absurd hop hnotroot).step?_eq_error h

/-- A root that is forbidden is a NaN under the other policy, and changes nothing. -/
theorem step?_withPolicy_of_root {x : Int64}
    (h : m.step? op = some (.error (.negativeSquareRoot x))) :
    op = .squareRoot ∧ ∃ nan : Float, nan.isNaN = true ∧
      (m.withPolicy .nan).step? op = some (.ok (m.withPolicy .nan, some (.float nan))) := by
  rcases rejected_cases h with ⟨-, he⟩ | ⟨rfl, -, c, rfl, hneg, -⟩
  · cases he
  · have hroot : (c.withSqrtPolicy .nan).squareRoot = .ok (0.0 / 0.0) := if_pos hneg
    refine ⟨rfl, 0.0 / 0.0, rfl, ?_⟩
    simp only [withPolicy, step?]
    rw [hroot]
    rfl

end Machine

namespace Script

variable {s : Script} {initial : Int64}

/-- The script without the operation at a place, counted from zero. -/
def without (s : Script) (k : Nat) : Script where
  variant := s.variant
  operations := s.operations.eraseIdx k
  supported op hop := s.supported op (List.mem_of_mem_eraseIdx hop)

theorem operations_without (s : Script) (k : Nat) :
    (s.without k).operations = s.operations.eraseIdx k := rfl

theorem machine_without (s : Script) (k : Nat) (initial : Int64) (policy : SqrtPolicy) :
    (s.without k).machine initial policy = s.machine initial policy := rfl

theorem machine_withPolicy (s : Script) (initial : Int64) (policy policy' : SqrtPolicy) :
    (s.machine initial policy).withPolicy policy' = s.machine initial policy' :=
  Machine.withPolicy_start policy policy' s.variant initial

theorem hasPolicy_machine (s : Script) (initial : Int64) (policy : SqrtPolicy) :
    (s.machine initial policy).HasPolicy policy :=
  Machine.hasPolicy_start s.variant initial policy

/-- What completes where roots of negative values are forbidden completes in the same way where
they are not. -/
theorem execute_nan_of_ok {r : Report} (h : s.execute initial .error = .ok r) :
    s.execute initial .nan = .ok r := by
  obtain ⟨steps, hrun, rfl⟩ := execute_eq_ok.1 h
  obtain ⟨m, hm⟩ := Machine.passes_of_run? hrun
  have hnan := hm.withPolicy (s.hasPolicy_machine initial .error) .nan
  rw [machine_withPolicy] at hnan
  exact execute_eq_ok.2 ⟨steps, hnan.run?_eq, rfl⟩

/-- What fails with a division by zero there fails with it here. -/
theorem execute_nan_of_division {f : Failure} (h : s.execute initial .error = .error f)
    (hf : f.source = .divisionByZero) : s.execute initial .nan = .error f := by
  obtain ⟨steps, op, e, hrun, rfl⟩ := execute_eq_error.1 h
  cases (hf : e = .divisionByZero)
  obtain ⟨xs, ys, m, hops, hm, hrejected⟩ := Machine.passes_of_stop hrun
  have hnan := hm.withPolicy (s.hasPolicy_machine initial .error) .nan
  rw [machine_withPolicy] at hnan
  have hstop := hnan.run?_stop (Machine.step?_withPolicy_of_division .nan hrejected) ys
  rw [← hops] at hstop
  exact execute_eq_error.2 ⟨steps, op, _, hstop, rfl⟩

/-- Without a scientific calculator there is no root to be forbidden. -/
theorem execute_nan_of_variant (initial : Int64) (h : s.variant ≠ .scientific) :
    s.execute initial .nan = s.execute initial .error := by
  have hmachine : s.machine initial .nan = s.machine initial .error := by
    unfold machine
    cases hv : s.variant with
    | basic | advanced => rfl
    | scientific => exact absurd hv h
  have hrun : s.run initial .nan = s.run initial .error := by
    apply run_eq
    rw [hmachine, run?_operations]
  rw [execute, hrun, execute]

/-- Two runs part at a forbidden root: the one that may take it goes on like the run of the script
without that root. -/
theorem run?_of_root {steps : List Step} {op : Operation} {x : Int64}
    (h : (s.machine initial .error).run? s.operations =
      some ⟨steps, some (op, .negativeSquareRoot x)⟩) :
    s.operations[steps.length]? = some .squareRoot ∧
    ∃ nan later stop, nan.isNaN = true ∧
      ((s.without steps.length).machine initial .nan).run? (s.without steps.length).operations =
        some ⟨steps ++ later, stop⟩ ∧
      (s.machine initial .nan).run? s.operations = some
        ⟨steps ++ ⟨"sqrt", lastValue initial steps, some (.float nan)⟩ :: later, stop⟩ := by
  obtain ⟨xs, ys, m, hops, hm, hrejected⟩ := Machine.passes_of_stop h
  obtain ⟨rfl, nan, hisNaN, hroot⟩ := Machine.step?_withPolicy_of_root hrejected
  have hnan := hm.withPolicy (s.hasPolicy_machine initial .error) .nan
  rw [machine_withPolicy] at hnan
  have hwithout : (s.without steps.length).operations = xs ++ ys := by
    rw [operations_without, hops, hm.length_eq,
      List.eraseIdx_append_of_length_le (Nat.le_refl _), Nat.sub_self]
    rfl
  have hvalue : (m.withPolicy .nan).value = lastValue initial steps := by
    rw [Machine.value_withPolicy, ← hm.lastValue_eq, machine, Machine.value_start]
  -- The rest is the same run, with the root in front of it and without.
  have hrest := run?_operations (s.without steps.length) initial .nan
  rw [hwithout, machine_without, hnan.run?_append] at hrest
  obtain ⟨⟨later, stop⟩, hlater, -⟩ := Option.map_eq_some_iff.1 hrest
  refine ⟨?_, nan, later, stop, hisNaN, ?_, ?_⟩
  · rw [hops, hm.length_eq, List.getElem?_append_right (Nat.le_refl _), Nat.sub_self]
    rfl
  · rw [hwithout, machine_without, hnan.run?_append, hlater]
    rfl
  · rw [hops, hnan.run?_append, Machine.run?, hroot]
    simp only [hlater, hvalue]
    rfl

/-- The policy influences nothing but roots of negative values. What completes where these are
forbidden is the same where they are not, and so is a failure by a division by zero. Where such a
root fails, it is a NaN under the other policy: the steps before it and the accumulator are the
same, and the rest is what the script does without that root, one step later. Without a scientific
calculator the policy has no influence at all. -/
theorem execute_policy (s : Script) (initial : Int64) :
    (∀ r, s.execute initial .error = .ok r → s.execute initial .nan = .ok r) ∧
    (∀ f, s.execute initial .error = .error f → f.source = .divisionByZero →
      s.execute initial .nan = .error f) ∧
    (∀ f x, s.execute initial .error = .error f → f.source = .negativeSquareRoot x →
      f.completed.steps.length + 1 = f.step ∧
      s.operations[f.step - 1]? = some .squareRoot ∧
      ∃ (nan : Float) (later : List Step) (final : Int64), nan.isNaN = true ∧
        (((s.without (f.step - 1)).execute initial .nan =
            .ok ⟨s.variant, initial, f.completed.steps ++ later, final⟩ ∧
          s.execute initial .nan = .ok ⟨s.variant, initial, f.completed.steps ++
            ⟨"sqrt", f.completed.finalValue, some (.float nan)⟩ :: later, final⟩) ∨
        ∃ k op e, (s.without (f.step - 1)).execute initial .nan =
            .error ⟨k, op, e, ⟨s.variant, initial, f.completed.steps ++ later, final⟩⟩ ∧
          s.execute initial .nan = .error ⟨k + 1, op, e, ⟨s.variant, initial, f.completed.steps ++
            ⟨"sqrt", f.completed.finalValue, some (.float nan)⟩ :: later, final⟩⟩)) ∧
    (s.variant ≠ .scientific → s.execute initial .nan = s.execute initial .error) := by
  refine ⟨fun r => execute_nan_of_ok, fun f => execute_nan_of_division, ?_,
    execute_nan_of_variant initial⟩
  intro f x hf hsource
  obtain ⟨steps, op, e, hrun, rfl⟩ := execute_eq_error.1 hf
  cases (hsource : e = .negativeSquareRoot x)
  obtain ⟨hop, nan, later, stop, hnan, hwithout, hwhole⟩ := run?_of_root hrun
  -- The root stands between two parts of a report and does not change the last value.
  have hreport :
      s.report initial (steps ++ ⟨"sqrt", lastValue initial steps, some (.float nan)⟩ :: later) =
        ⟨s.variant, initial,
          steps ++ ⟨"sqrt", lastValue initial steps, some (.float nan)⟩ :: later,
          lastValue initial (steps ++ later)⟩ := by
    rw [report_eq, lastValue_append, lastValue_cons, lastValue_append]
  refine ⟨rfl, hop, nan, later, lastValue initial (steps ++ later), hnan, ?_⟩
  rcases stop with - | ⟨op', e'⟩
  · exact .inl ⟨execute_eq_ok.2 ⟨_, hwithout, rfl⟩, execute_eq_ok.2 ⟨_, hwhole, hreport.symm⟩⟩
  · refine .inr ⟨(steps ++ later).length + 1, op'.render, e',
      execute_eq_error.2 ⟨_, _, _, hwithout, rfl⟩, execute_eq_error.2 ⟨_, _, _, hwhole, ?_⟩⟩
    rw [hreport, List.length_append, List.length_append, List.length_cons]
    rfl

/-- A root of a negative value in the middle of a script, and a division by zero behind it. -/
theorem execute_policy_root : ∃ nan : Float, nan.isNaN = true ∧
    (⟨.scientific, [.subtract 5, .squareRoot, .add 1, .divide 0], by decide⟩ : Script).execute 2
      .nan = .error ⟨4, "div:0", .divisionByZero, ⟨.scientific, 2, [⟨"sub:5", -3, none⟩,
        ⟨"sqrt", -3, some (.float nan)⟩, ⟨"add:1", -2, none⟩], -2⟩⟩ := by
  have herror : (⟨.scientific, [.subtract 5, .squareRoot, .add 1, .divide 0], by decide⟩ :
      Script).execute 2 .error = .error ⟨2, "sqrt", .negativeSquareRoot (-3),
        ⟨.scientific, 2, [⟨"sub:5", -3, none⟩], -3⟩⟩ := rfl
  have hwithout : ((⟨.scientific, [.subtract 5, .squareRoot, .add 1, .divide 0], by decide⟩ :
      Script).without 1).execute 2 .nan = .error ⟨3, "div:0", .divisionByZero,
        ⟨.scientific, 2, [⟨"sub:5", -3, none⟩, ⟨"add:1", -2, none⟩], -2⟩⟩ := rfl
  obtain ⟨-, -, hnegative, -⟩ :=
    execute_policy ⟨.scientific, [.subtract 5, .squareRoot, .add 1, .divide 0], by decide⟩ 2
  obtain ⟨-, -, nan, later, final, hnan, ⟨hok, -⟩ | ⟨k, op, e, hpart, hwhole⟩⟩ :=
    hnegative _ _ herror rfl
  · cases hok.symm.trans hwithout
  · cases hpart.symm.trans hwithout
    exact ⟨nan, hnan, hwhole⟩

end Script

end Abacus
