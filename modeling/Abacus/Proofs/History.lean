import Abacus.Proofs.Calls
import Abacus.Proofs.Reset

/-!
# What the log tells

The log has an entry for each addition and each subtraction since the calculator was made, in their
order, and nothing else; so it shows which they were, with their operands
(`AdvancedCalculator.Entry.decodeAll?_texts`). Where nothing but these changes the accumulator, the
log and the first value are enough to compute it again (`AdvancedCalculator.accounts`).

A machine that runs a script and a calculator that is called through its interfaces keep the log in
the same way, and what a history shows is the log (`AdvancedCalculator.history_accounts`).
-/

namespace Abacus

namespace AdvancedCalculator

/-! ## Entries -/

/-- What an entry tells of. -/
inductive Entry where
  | added (n : Int64)
  | subtracted (n : Int64)
  deriving DecidableEq

namespace Entry

/-- The entry as it stands in a log. -/
def text : Entry → String
  | added n => "add " ++ Text.renderInt64 n
  | subtracted n => "subtract " ++ Text.renderInt64 n

/-- What the operation told of makes of the accumulator. -/
def effect (v : Int64) : Entry → Int64
  | added n => v + n
  | subtracted n => v - n

/-- What is entered for an operation. -/
def ofOperation? : Operation → Option Entry
  | .add n => some (added n)
  | .subtract n => some (subtracted n)
  | .multiply _ | .divide _ | .value | .reset | .storeMemory | .recallMemory | .clearMemory
  | .squareRoot | .history => none

/-- The entry that a text tells of. -/
def decode? (s : String) : Option Entry :=
  match Text.cut ' ' s.toList with
  | none => none
  | some (name, operand) =>
    match String.ofList name, Text.readInt64 operand with
    | "add", .ok n => some (added n)
    | "subtract", .ok n => some (subtracted n)
    | _, _ => none

/-- The entries that the texts of a log tell of. -/
def decodeAll? (log : List String) : Option (List Entry) := log.mapM decode?

theorem decode?_text (e : Entry) : decode? e.text = some e := by
  -- A name has no blank in it, so the text is cut just behind the name.
  have hcut (name : List Char) (n : Int64) (hname : ' ' ∉ name) :
      Text.cut ' ' (name ++ ' ' :: (Text.renderInt64 n).toList) =
        some (name, (Text.renderInt64 n).toList) := Text.cut_eq_some_iff.2 ⟨rfl, hname⟩
  have hread (n : Int64) : Text.readInt64 (Text.renderInt64 n).toList = .ok n :=
    Text.readInt64_eq_ok.2 (Text.written_renderInt64 n)
  cases e with
  | added n =>
    have htext : (added n).text.toList = "add".toList ++ ' ' :: (Text.renderInt64 n).toList := by
      simp [text]
    simp only [decode?, htext, hcut "add".toList n (by decide), hread, String.ofList_toList]
  | subtracted n =>
    have htext : (subtracted n).text.toList =
        "subtract".toList ++ ' ' :: (Text.renderInt64 n).toList := by
      simp [text]
    simp only [decode?, htext, hcut "subtract".toList n (by decide), hread, String.ofList_toList]

/-- A log tells of one list of entries. -/
theorem decodeAll?_texts (es : List Entry) : decodeAll? (es.map text) = some es := by
  induction es with
  | nil => rfl
  | cons e es ih =>
    rw [decodeAll?] at ih
    rw [decodeAll?, List.map_cons, List.mapM_cons, decode?_text, ih]
    rfl

theorem map_text_injective : Function.Injective (List.map text) := by
  intro es es' h
  have hdecoded := congrArg decodeAll? h
  rw [decodeAll?_texts, decodeAll?_texts] at hdecoded
  exact Option.some.inj hdecoded

end Entry

/-! ## Logs -/

/-- What a log has to tell after operations. -/
def recorded (ops : List Operation) : List Entry := ops.filterMap Entry.ofOperation?

theorem entries_advanced (ops : List Operation) :
    Operation.entries .advanced ops = (recorded ops).map Entry.text := by
  rw [Operation.entries, recorded, List.map_filterMap]
  congr 1
  funext op
  cases op <;> rfl

/-- The accumulator that a log leads to, from a first value. -/
def replay? (initial : Int64) (log : List String) : Option Int64 :=
  (Entry.decodeAll? log).map fun es => es.foldl Entry.effect initial

/-- The accumulator cannot change by the operation unless it is entered. -/
def isReplayable : Operation → Bool
  | .add _ | .subtract _ | .divide _ | .value | .history => true
  | .multiply _ | .reset | .storeMemory | .recallMemory | .clearMemory | .squareRoot => false

/-- What a log and an accumulator are after operations: the entries stand for the additions and
subtractions, and the log leads to the accumulator if nothing but these could change it. -/
structure Accounts (initial : Int64) (ops : List Operation) (log : List String) (v : Int64) :
    Prop where
  log_eq : log = (recorded ops).map Entry.text
  replay_eq : (∀ op ∈ ops, isReplayable op = true) → replay? initial log = some v

theorem accumulator_eq_foldl {ops : List Operation} (h : ∀ op ∈ ops, isReplayable op = true)
    (v : Int64) : Operation.accumulator v ops = (recorded ops).foldl Entry.effect v := by
  induction ops generalizing v with
  | nil => rfl
  | cons op ops ih =>
    obtain ⟨hop, hrest⟩ := List.forall_mem_cons.1 h
    rw [Operation.accumulator_cons, ih hrest, recorded, recorded]
    cases op with
    | add n | subtract n => rfl
    -- Neither entered nor of any effect.
    | divide | value | history => rfl
    | multiply | reset | storeMemory | recallMemory | clearMemory | squareRoot => cases hop

/-- The log that operations leave accounts for them. -/
theorem accounts (initial : Int64) (ops : List Operation) :
    Accounts initial ops (Operation.entries .advanced ops) (Operation.accumulator initial ops) where
  log_eq := entries_advanced ops
  replay_eq h := by
    rw [entries_advanced, replay?, Entry.decodeAll?_texts, accumulator_eq_foldl h]
    rfl

end AdvancedCalculator

/-! ## Machines -/

namespace Machine

open Operation (accumulator entries)

variable {m m' : Machine} {op : Operation} {output : Option Output}

theorem output_of_step?_history (h : m.step? .history = some (.ok (m', output))) :
    output = some (.history m.log) := by
  cases m with
  | advanced c => cases h; rfl
  | basic | scientific => cases h

/-- Nothing but the operation for it shows a history. -/
theorem eq_history_of_step? {log : List String}
    (h : m.step? op = some (.ok (m', some (.history log)))) : op = .history := by
  have hcomputed {x : Except CalcError Float}
      (hx : some (x.map fun y => (m, some (Output.float y))) =
        some (.ok (m', some (.history log)))) : False := by
    obtain ⟨y, -, hy⟩ := Text.map_eq_ok (Option.some.inj hx)
    cases hy
  cases op with
  | history => rfl
  | divide => exact (hcomputed h).elim
  | squareRoot =>
    cases m with
    | scientific c => exact (hcomputed h).elim
    | basic | advanced => cases h
  | add | subtract | multiply | value | reset => cases h
  | storeMemory | recallMemory | clearMemory => cases m <;> cases h

/-- Calls can be made in any mixture of interfaces that have the operations; the log grows by the
entries of the operations and the accumulator follows them. -/
theorem exists_log_of_afterCalls? {calls : List (Interface × Operation)}
    (h : ∀ call ∈ calls, call.1.offers m.variant call.2 = true) :
    ∃ m', m.afterCalls? calls = some m' ∧ m'.variant = m.variant ∧
      m'.log = m.log ++ entries m.variant (calls.map Prod.snd) ∧
      m'.value = accumulator m.value (calls.map Prod.snd) := by
  refine exists_afterCalls? (fun m ops m' => m'.log = m.log ++ entries m.variant ops ∧
    m'.value = accumulator m.value ops) ?_ ?_ h
  · intro m
    rw [Operation.entries_nil, List.append_nil]
    exact ⟨rfl, rfl⟩
  · rintro m op ops last ⟨hlog, hvalue⟩
    constructor
    · rw [hlog, log_after, variant_after, Operation.entries_cons _ op ops,
        List.append_assoc]
    · rw [hvalue, value_after, Operation.accumulator_cons]

end Machine

/-! ## Calculators -/

namespace AdvancedCalculator

variable {m : Machine} {initial : Int64} {ops : List Operation}

theorem accounts_of_eq (hlog : m.log = Operation.entries .advanced ops)
    (hvalue : m.value = Operation.accumulator initial ops) :
    Accounts initial ops m.log m.value := by
  rw [hlog, hvalue]
  exact accounts initial ops

theorem accounts_of_passes {policy : SqrtPolicy} {steps : List Step}
    (h : (Machine.start .advanced initial policy).Passes ops steps m) :
    Accounts initial ops m.log m.value :=
  accounts_of_eq h.log_eq h.value_eq

/-- **What a history shows accounts for all operations before it**, in a script and on a calculator
that has been called in any way since it was made; and a log could have been left by one list of
additions and subtractions only. -/
theorem history_accounts :
    (∀ (s : Script) (initial : Int64) (policy : SqrtPolicy) (r : Report),
      s.Reports initial policy r → ∀ (i : Nat) (step : Step), r.steps[i]? = some step →
        (s.operations[i]? = some .history ↔ ∃ log, step.output = some (.history log)) ∧
        ∀ log, step.output = some (.history log) →
          Accounts initial (s.operations.take i) log step.value) ∧
    (∀ (initial : Int64) (calls : List (Interface × Operation)),
      (∀ call ∈ calls, call.1.offers .advanced call.2 = true) →
        ∃ c : AdvancedCalculator,
          (Machine.advanced (ofValue initial)).afterCalls? calls = some (.advanced c) ∧
          c.call? .own .history = some (.ok (c, some (.history c.history))) ∧
          Accounts initial (calls.map Prod.snd) c.history c.value) ∧
    Function.Injective (List.map Entry.text) := by
  refine ⟨?_, ?_, Entry.map_text_injective⟩
  · intro s initial policy r hr i step hi
    obtain ⟨op, before, next, hop, hbefore, hstep, -, hvalue⟩ := hr.exists_step hi
    have hshown {log : List String} (hlog : step.output = some (.history log)) :
        op = .history := by
      rw [hlog] at hstep
      exact Machine.eq_history_of_step? hstep
    refine ⟨⟨fun hhistory => ?_, fun ⟨log, hlog⟩ => ?_⟩, fun log hlog => ?_⟩
    · obtain rfl := Option.some.inj (hop.symm.trans hhistory)
      exact ⟨before.log, Machine.output_of_step?_history hstep⟩
    · rw [hop, hshown hlog]
    · obtain rfl := hshown hlog
      have hvariant : s.variant = .advanced :=
        of_decide_eq_true (s.supported .history (List.mem_of_getElem? hop))
      rw [Script.machine, hvariant] at hbefore
      have hbehind := accounts_of_passes hbefore
      rw [Machine.output_of_step?_history hstep] at hlog
      cases hlog
      rw [hvalue, Machine.eq_after_of_step? hstep]
      exact hbehind
  · intro initial calls hcalls
    obtain ⟨m, hm, hvariant, hlog, hvalue⟩ :=
      Machine.exists_log_of_afterCalls? (m := .advanced (ofValue initial)) hcalls
    cases m with
    | basic | scientific => cases hvariant
    | advanced c =>
      exact ⟨c, hm, rfl, accounts_of_eq (m := .advanced c) hlog hvalue⟩

/-- A history of a script in which a quotient failed later, and one of a calculator that was called
in several ways; the second log leads to the accumulator. -/
theorem history_accounts_interleaved :
    (∃ f step log, (⟨.advanced, [.subtract Int64.minValue, .multiply 3, .add 0, .history,
        .divide 0], by decide⟩ : Script).execute 5 .error = .error f ∧
      f.completed.steps[3]? = some step ∧ step.output = some (.history log) ∧
      log = ["subtract -9223372036854775808", "add 0"]) ∧
    ∃ c, (Machine.advanced (ofValue 10)).afterCalls? [(.own, .add 5), (.arithmetic, .subtract 2),
        (.own, .history), (.arithmetic, .divide 0)] = some (.advanced c) ∧
      replay? 10 c.history = some c.value := by
  obtain ⟨hscript, hcalls, -⟩ := history_accounts
  constructor
  · obtain ⟨hshows, haccounts⟩ := hscript ⟨.advanced, [.subtract Int64.minValue, .multiply 3,
      .add 0, .history, .divide 0], by decide⟩ 5 .error _ (.completed rfl) 3 _ rfl
    obtain ⟨log, hlog⟩ := hshows.1 rfl
    exact ⟨_, _, log, rfl, rfl, hlog, (haccounts log hlog).log_eq⟩
  · obtain ⟨c, hc, -, haccounts⟩ := hcalls 10 [(.own, .add 5), (.arithmetic, .subtract 2),
      (.own, .history), (.arithmetic, .divide 0)] (by decide)
    exact ⟨c, hc, haccounts.replay_eq (by decide)⟩

end AdvancedCalculator

end Abacus
