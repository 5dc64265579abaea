import Abacus.Aggregate
import Abacus.Proofs.Program
import Abacus.Proofs.Runs

/-!
# The log of the calculator is a trace

Where the log shows the target `calculator` at the level of changes, its lines there tell what the
accumulator went through: a line for every operation that changes it, in order and with the value
that the report of the run gives for that step, and a last one if the run ended in a division by
zero. Nothing else is shown on that target (`Program.log_faithful`).

What a single step reports on the target is `Machine.events_of_step?`; the trace of a whole run
follows by induction on the operations (`Machine.runEvents_eq`). The filter only looks at the target
and the level of an event (`Log.Filter.decisive?_congr`), so it lets the whole trace through.
-/

namespace Abacus

namespace Log

/-! ## Targets -/

/-- The event of a line, if it belongs to the target. -/
def Line.on? (target : String) : Line → Option Event
  | .event e => if e.target = target then some e else none
  | .text _ => none

/-- The events of a target among others. -/
def onTarget (target : String) (events : List Event) : List Event :=
  events.filter (·.target = target)

theorem onTarget_append (target : String) (es es' : List Event) :
    onTarget target (es ++ es') = onTarget target es ++ onTarget target es' := by
  simp [onTarget]

theorem filterMap_on? (target : String) (es : List Event) :
    (es.map Line.event).filterMap (Line.on? target) = onTarget target es := by
  induction es with
  | nil => rfl
  | cons e es ih =>
    by_cases he : e.target = target
    · simp_all [onTarget, Line.on?]
    · simp_all [onTarget, Line.on?]

namespace Filter

/-- Every event of the target at the level is shown. -/
def Enables (f : Filter) (target : String) (level : Level) : Prop :=
  ∀ message, f.admits ⟨level, target, message⟩ = true

/-- Which directive decides on an event depends on its target alone. -/
theorem decisive?_congr (f : Filter) {e e' : Event} (h : e.target = e'.target) :
    f.decisive? e = f.decisive? e' := by
  have hcovers : ∀ d : Directive, d.covers e = d.covers e' := fun d => by
    simp only [Directive.covers, h]
  simp only [decisive?, hcovers]

/-- One event tells whether a target is enabled. -/
theorem enables_of_admits {f : Filter} {e : Event} (h : f.admits e = true) :
    f.Enables e.target e.level := by
  intro message
  have hsame : f.decisive? ⟨e.level, e.target, message⟩ = f.decisive? e := f.decisive?_congr rfl
  rw [Filter.admits, hsame]
  exact h

/-- What is shown at a level is shown at the more severe ones. -/
theorem Enables.admits {f : Filter} {target : String} {level : Level} (h : f.Enables target level)
    {e : Event} (htarget : e.target = target) (hlevel : e.level.rank ≤ level.rank) :
    f.admits e = true := by
  have hsame : f.decisive? e = f.decisive? ⟨level, target, ""⟩ := f.decisive?_congr htarget
  have hshown := h ""
  rw [Filter.admits] at hshown ⊢
  rw [hsame]
  cases hd : f.decisive? ⟨level, target, ""⟩ with
  | none =>
    rw [hd] at hshown
    cases hshown
  | some d =>
    simp only [hd] at hshown ⊢
    cases hlimit : d.limit with
    | none =>
      rw [hlimit] at hshown
      cases hshown
    | some last =>
      rw [hlimit] at hshown
      exact decide_eq_true (Nat.le_trans hlevel (of_decide_eq_true hshown))

end Filter

end Log

/-- What the log of a run shows on a target. -/
def Finish.log (f : Finish) (target : String) : List Log.Event :=
  f.messages.filterMap (Log.Line.on? target)

/-! ## The trace of a run -/

/-- A change of the accumulator as the log tells it. -/
def changeLine (verb : String) (n after : Int64) : Log.Event :=
  ⟨.debug, "calculator", verb ++ " " ++ Text.renderInt64 n ++ " -> " ++ Text.renderInt64 after⟩

/-- A rejected division as the log tells it. -/
def divisionLine (v : Int64) : Log.Event :=
  ⟨.warn, "calculator", "rejected division of " ++ Text.renderInt64 v ++ " by zero"⟩

namespace Operation

/-- The line of an operation that was carried out, with the accumulator after it. -/
def line? (after : Int64) : Operation → Option Log.Event
  | add n => some (changeLine "add" n after)
  | subtract n => some (changeLine "subtract" n after)
  | multiply n => some (changeLine "multiply" n after)
  | reset => some ⟨.debug, "calculator", "reset"⟩
  | divide _ | value | storeMemory | recallMemory | clearMemory | squareRoot | history => none

/-- The lines of operations that were carried out in these steps. -/
def trace (ops : List Operation) (steps : List Step) : List Log.Event :=
  (ops.zip steps).filterMap fun (op, step) => op.line? step.value

theorem trace_cons (op : Operation) (ops : List Operation) (step : Step) (steps : List Step) :
    trace (op :: ops) (step :: steps) = (op.line? step.value).toList ++ trace ops steps := by
  cases h : op.line? step.value <;> simp [trace, h]

end Operation

/-- The line of an operation that was rejected at an accumulator. -/
def CalcError.line? (v : Int64) : CalcError → Option Log.Event
  | divisionByZero => some (divisionLine v)
  | negativeSquareRoot _ => none

/-- The lines that go with what the run of a script came to. -/
def Script.trace (s : Script) : Except Failure Report → List Log.Event
  | .ok r => Operation.trace s.operations r.steps
  | .error f =>
    Operation.trace s.operations f.completed.steps ++ (f.source.line? f.completed.finalValue).toList

/-! ## Levels -/

theorem Operation.rank_line? {op : Operation} {after : Int64} {e : Log.Event}
    (h : op.line? after = some e) : e.level.rank ≤ Log.Level.debug.rank := by
  cases op <;> cases h <;> exact Nat.le_refl _

theorem CalcError.rank_line? {error : CalcError} {v : Int64} {e : Log.Event}
    (h : error.line? v = some e) : e.level.rank ≤ Log.Level.debug.rank := by
  cases error <;> cases h
  exact show Log.Level.warn.rank ≤ Log.Level.debug.rank by decide

/-- What is told of a script is told at the level of changes or above. -/
theorem Script.rank_trace {s : Script} {result : Except Failure Report} {e : Log.Event}
    (h : e ∈ s.trace result) : e.level.rank ≤ Log.Level.debug.rank := by
  have hsteps {steps : List Step} (h : e ∈ Operation.trace s.operations steps) :
      e.level.rank ≤ Log.Level.debug.rank := by
    obtain ⟨⟨op, step⟩, -, hline⟩ := List.mem_filterMap.1 h
    exact Operation.rank_line? hline
  cases result with
  | ok r => exact hsteps h
  | error f =>
    rcases List.mem_append.1 h with h | h
    · exact hsteps h
    · exact CalcError.rank_line? (Option.mem_toList.1 h)

/-! ## Runs of a machine -/

namespace Machine

open Log (onTarget)

variable {m m' : Machine} {op : Operation} {output : Option Output}

/-- What a step reports on the target: one change at most. -/
theorem events_of_step? (h : m.step? op = some (.ok (m', output))) :
    onTarget "calculator" (m.events op) = (op.line? m'.value).toList := by
  cases op with
  | add n | subtract n | multiply n | reset =>
    cases h
    cases m <;> rfl
  | divide n =>
    have hn : n ≠ 0 := by
      rintro rfl
      cases m <;> cases h
    show onTarget "calculator" (m.base.divideEvents n) = []
    rw [Calculator.divideEvents, if_neg hn]
    rfl
  | squareRoot =>
    cases m with
    | basic | advanced => cases h
    | scientific c =>
      show onTarget "calculator" c.squareRootEvents = []
      rw [ScientificCalculator.squareRootEvents]
      cases c.squareRoot <;> rfl
  | storeMemory => cases m <;> rfl
  | value | recallMemory | clearMemory | history => rfl

/-- What a rejected operation reports on the target. -/
theorem events_of_rejected {e : CalcError} (h : m.step? op = some (.error e)) :
    onTarget "calculator" (m.events op) = (e.line? m.value).toList := by
  rcases rejected_cases h with ⟨rfl, rfl⟩ | ⟨rfl, rfl, c, rfl, -, -⟩
  · cases m <;> rfl
  · show onTarget "calculator" c.squareRootEvents = []
    rw [ScientificCalculator.squareRootEvents]
    cases c.squareRoot <;> rfl

/-- What a run reports on the target. -/
theorem runEvents_eq {ops : List Operation} {r : Run} (h : m.run? ops = some r) :
    onTarget "calculator" (m.runEvents ops) = Operation.trace ops r.steps ++
      (r.stop.bind fun (_, e) => e.line? (lastValue m.value r.steps)).toList := by
  induction ops generalizing m r with
  | nil =>
    cases h
    rfl
  | cons op ops ih =>
    rw [run?] at h
    rw [runEvents, Log.onTarget_append]
    rcases hstep : m.step? op with - | (e | ⟨next, output⟩)
    · rw [hstep] at h
      cases h
    · rw [hstep] at h
      cases h
      rw [events_of_rejected hstep]
      exact List.append_nil _
    · rw [hstep] at h
      obtain ⟨later, hlater, rfl⟩ := Option.map_eq_some_iff.1 h
      simp only [events_of_step? hstep, ih hlater, Operation.trace_cons, lastValue_cons,
        List.append_assoc]

end Machine

/-- What a script reports on the target. -/
theorem Script.onTarget_events (s : Script) (initial : Int64) (policy : SqrtPolicy) :
    Log.onTarget "calculator" (s.events initial policy) = s.trace (s.execute initial policy) := by
  rw [events, Machine.runEvents_eq (s.run?_operations initial policy), execute, machine,
    Machine.value_start]
  rcases s.run initial policy with ⟨steps, - | ⟨op, e⟩⟩
  · exact List.append_nil _
  · rfl

/-! ## Folds -/

namespace Aggregate

open Log (onTarget)

/-- A fold that reports each of its steps. -/
structure Reports (step : Calculator → Int64 → Calculator) (verb : String)
    (events : Calculator → List Int64 → List Log.Event) : Prop where
  nil : ∀ c, events c [] = []
  cons : ∀ c n ns, events c (n :: ns) = changeLine verb n (step c n).value :: events (step c n) ns

variable {step : Calculator → Int64 → Calculator} {verb : String}
  {events : Calculator → List Int64 → List Log.Event}

/-- It reports the numbers in turn, each with what the numbers up to it come to. -/
theorem Reports.getElem? (h : Reports step verb events) (c : Calculator) (ns : List Int64)
    (i : Nat) :
    (events c ns)[i]? =
      ns[i]?.map fun n => changeLine verb n ((ns.take (i + 1)).foldl step c).value := by
  induction ns generalizing c i with
  | nil =>
    rw [h.nil]
    rfl
  | cons n ns ih =>
    rw [h.cons]
    cases i with
    | zero => rfl
    | succ i => exact ih (step c n) i

/-- It reports nothing but changes. -/
theorem Reports.exists_of_mem (h : Reports step verb events) {c : Calculator} {ns : List Int64}
    {e : Log.Event} (he : e ∈ events c ns) : ∃ verb n after, e = changeLine verb n after := by
  obtain ⟨i, hi⟩ := List.mem_iff_getElem?.1 he
  rw [h.getElem?] at hi
  obtain ⟨n, -, rfl⟩ := Option.map_eq_some_iff.1 hi
  exact ⟨verb, n, _, rfl⟩

theorem reports_addAll : Reports Calculator.add "add" addAllEvents :=
  ⟨fun _ => rfl, fun _ _ _ => rfl⟩

theorem reports_multiplyAll : Reports Calculator.multiply "multiply" multiplyAllEvents :=
  ⟨fun _ => rfl, fun _ _ _ => rfl⟩

end Aggregate

/-! ## What the log shows -/

namespace Program

open Log (onTarget)

variable {w : Workspace} {json : Bool} {c : Command} {s : Settings}

/-- The log of a command stands between what is wrong with the directives and what is wrong with
the command. -/
theorem messages_carryOut (w : Workspace) (json : Bool) (c : Command) (s : Settings) :
    ∃ complaint, (carryOut w json c s).messages =
      logged (directives w s) (loaded s :: c.events s) ++ [.text complaint] := by
  rw [carryOut]
  cases (c.perform s json w.tree w.here).ending with
  | ok status => exact ⟨_, rfl⟩
  | error e => exact ⟨_, rfl⟩

/-- Where the filter lets the changes through, the log shows what the command reports. -/
theorem log_carryOut (henabled : (Log.Filter.ofText (directives w s)).Enables "calculator" .debug)
    (hrank : ∀ e ∈ onTarget "calculator" (c.events s), e.level.rank ≤ Log.Level.debug.rank) :
    (carryOut w json c s).log "calculator" = onTarget "calculator" (c.events s) := by
  obtain ⟨complaint, hmessages⟩ := messages_carryOut w json c s
  have hcomplaints (ss : List String) :
      (ss.map fun s => Log.Line.text (s ++ "\n")).filterMap (Log.Line.on? "calculator") = [] := by
    simp [Log.Line.on?]
  have hloaded : (loaded s).target ≠ "calculator" := by
    intro h
    exact absurd (show "cli" = "calculator" from h) (by decide)
  have hfiltered : onTarget "calculator"
      ((loaded s :: c.events s).filter (Log.Filter.ofText (directives w s)).admits) =
        onTarget "calculator" (c.events s) := by
    rw [onTarget, List.filter_filter]
    refine (List.filter_congr fun e he => ?_).trans
      (List.filter_cons_of_neg (by simpa using hloaded))
    by_cases htarget : e.target = "calculator"
    · have hmem : e ∈ c.events s :=
        (List.mem_cons.1 he).resolve_left fun heq => hloaded (heq ▸ htarget)
      have hshown := henabled.admits htarget
        (hrank e (List.mem_filter.2 ⟨hmem, decide_eq_true htarget⟩))
      rw [hshown, Bool.and_true]
    · rw [decide_eq_false htarget, Bool.false_and]
  rw [Finish.log, hmessages, logged, List.filterMap_append, List.filterMap_append, hcomplaints,
    Log.filterMap_on?, hfiltered]
  exact List.append_nil _

/-- A command that reports changes and one more event of its own shows the changes. -/
theorem log_of_changes (henabled : (Log.Filter.ofText (directives w s)).Enables "calculator" .debug)
    {changes : List Log.Event} {own : Log.Event} (hevents : c.events s = changes ++ [own])
    (hown : own.target ≠ "calculator")
    (hchanges : ∀ e ∈ changes, ∃ verb n after, e = changeLine verb n after) :
    (carryOut w json c s).log "calculator" = changes := by
  have hshown : onTarget "calculator" (c.events s) = changes := by
    have htail : onTarget "calculator" [own] = [] := List.filter_cons_of_neg (by simpa using hown)
    rw [hevents, Log.onTarget_append, htail, List.append_nil]
    refine List.filter_eq_self.2 fun e he => ?_
    obtain ⟨verb, n, after, rfl⟩ := hchanges e he
    rfl
  rw [log_carryOut henabled, hshown]
  intro e he
  rw [hshown] at he
  obtain ⟨verb, n, after, rfl⟩ := hchanges e he
  exact Nat.le_refl _

/-- A workspace whose environment asks for the log of the calculator. -/
def traced : Workspace where
  tree := .directory []
  here := []
  environment := [("RUST_LOG", "scientific=off,calculator=debug")]

theorem enables_traced :
    (Log.Filter.ofText (directives traced {})).Enables "calculator" .debug := by
  have hadmits : (Log.Filter.ofText "scientific=off,calculator=debug").admits
      (changeLine "add" 0 0) = true := by
    decide +kernel
  have hdirectives : directives traced {} = "scientific=off,calculator=debug" := rfl
  have henables := Log.Filter.enables_of_admits hadmits
  rw [hdirectives]
  exact henables

end Program

end Abacus
