import Abacus.Envelope

/-!
# Completed envelopes

An envelope is started in one of three ways and then completed by calls, in any order and as often
as one likes. Each call replaces one field, so what a field holds in the end is what the last call
of its kind gave it, or what it held at the start (`field_completed`, by induction on the calls).

Status, code, exit code and schema version have no calls. So the outcome of an envelope is that of
its start, and the exit code always is the one that goes with the code (`completed_fields`).
-/

namespace Abacus.Envelope

variable {α β : Type}

/-! ## Starts and calls -/

/-- How an envelope is started. -/
inductive Start where
  | success (data : Json.Value)
  | error (code : ResultCode) (message : String)
  | calcError (e : CalcError)

def Start.envelope : Start → Envelope
  | success data => .success data
  | error code message => .error code message
  | calcError e => .ofCalcError e

/-- A call that completes an envelope. -/
inductive Call where
  | data (data : Json.Value)
  | message (message : String)
  | entityType (entityType : EntityType)
  | count (count : UInt64)

namespace Call

/-- The envelope after a call. -/
def apply (e : Envelope) : Call → Envelope
  | data v => e.withData v
  | message s => e.withMessage s
  | entityType t => e.withEntityType t
  | count n => e.withCount n

/-! The argument of a call, if it is of the kind. -/

def data? : Call → Option Json.Value
  | data v => some v
  | _ => none

def message? : Call → Option String
  | message s => some s
  | _ => none

def entityType? : Call → Option EntityType
  | entityType t => some t
  | _ => none

def count? : Call → Option UInt64
  | count n => some n
  | _ => none

end Call

/-- The envelope after calls. -/
def completed (e : Envelope) (calls : List Call) : Envelope := calls.foldl Call.apply e

/-- The argument of the last call of a kind. -/
def last? (kind : Call → Option α) (calls : List Call) : Option α :=
  (calls.filterMap kind).getLast?

/-- For every kind, the last calls have the same argument, or there is none on either side. -/
structure SameLast (calls calls' : List Call) : Prop where
  data : last? Call.data? calls = last? Call.data? calls'
  message : last? Call.message? calls = last? Call.message? calls'
  entityType : last? Call.entityType? calls = last? Call.entityType? calls'
  count : last? Call.count? calls = last? Call.count? calls'

/-! ## What the calls leave -/

/-- A field that each call of its kind sets and all others leave alone. -/
theorem field_completed (field : Envelope → β) (kind : Call → Option α) (set : α → β)
    (h : ∀ e call, field (Call.apply e call) = ((kind call).map set).getD (field e))
    (e : Envelope) (calls : List Call) :
    field (completed e calls) = ((last? kind calls).map set).getD (field e) := by
  induction calls generalizing e with
  | nil => rfl
  | cons call calls ih =>
    have hrest : field (completed e (call :: calls)) =
        ((last? kind calls).map set).getD (field (call.apply e)) := ih (call.apply e)
    rw [hrest, h e call, last?, last?]
    cases hkind : kind call with
    | none => rw [List.filterMap_cons_none hkind]; rfl
    | some a =>
      rw [List.filterMap_cons_some hkind, List.getLast?_cons]
      cases (calls.filterMap kind).getLast? <;> rfl

theorem optional_completed (field : Envelope → Option α) (kind : Call → Option α)
    (h : ∀ e call, field (Call.apply e call) = (kind call).or (field e)) (e : Envelope)
    (calls : List Call) : field (completed e calls) = (last? kind calls).or (field e) := by
  have hor : ∀ a b : Option α, a.or b = (a.map some).getD b := by
    intro a b
    cases a <;> rfl
  rw [hor]
  exact field_completed field kind some (fun e call => (h e call).trans (hor _ _)) e calls

theorem data_completed (e : Envelope) (calls : List Call) :
    (completed e calls).data = (last? Call.data? calls).or e.data :=
  optional_completed data Call.data? (fun _ call => by cases call <;> rfl) e calls

theorem message_completed (e : Envelope) (calls : List Call) :
    (completed e calls).message = (last? Call.message? calls).getD e.message := by
  have hfield := field_completed message Call.message? id
    (fun _ call => by cases call <;> rfl) e calls
  rwa [Option.map_id_fun, id_eq] at hfield

theorem entityType_completed (e : Envelope) (calls : List Call) :
    (completed e calls).info.entityType =
      (last? Call.entityType? calls).or e.info.entityType :=
  optional_completed (·.info.entityType) Call.entityType? (fun _ call => by cases call <;> rfl) e
    calls

theorem count_completed (e : Envelope) (calls : List Call) :
    (completed e calls).info.count = (last? Call.count? calls).or e.info.count :=
  optional_completed (·.info.count) Call.count? (fun _ call => by cases call <;> rfl) e calls

/-- What no call sets. -/
structure SameOutcome (e e' : Envelope) : Prop where
  status : e.status = e'.status
  code : e.code = e'.code
  exitCode : e.exitCode = e'.exitCode
  schemaVersion : e.info.schemaVersion = e'.info.schemaVersion

theorem sameOutcome_completed (e : Envelope) (calls : List Call) :
    SameOutcome (completed e calls) e := by
  induction calls generalizing e with
  | nil => exact ⟨rfl, rfl, rfl, rfl⟩
  | cons call calls ih =>
    have hrest : SameOutcome (completed e (call :: calls)) (call.apply e) := ih (call.apply e)
    have hcall : SameOutcome (call.apply e) e := by cases call <;> exact ⟨rfl, rfl, rfl, rfl⟩
    exact ⟨hrest.status.trans hcall.status, hrest.code.trans hcall.code,
      hrest.exitCode.trans hcall.exitCode, hrest.schemaVersion.trans hcall.schemaVersion⟩

/-- The last calls are all that matters. -/
theorem completed_congr {calls calls' : List Call} (h : SameLast calls calls') (e : Envelope) :
    completed e calls = completed e calls' := by
  have houtcome := sameOutcome_completed e calls
  have houtcome' := sameOutcome_completed e calls'
  have hinfo : (completed e calls).info = (completed e calls').info := by
    rw [Meta.mk.injEq]
    refine ⟨houtcome.schemaVersion.trans houtcome'.schemaVersion.symm, ?_, ?_⟩
    · rw [entityType_completed, entityType_completed, h.entityType]
    · rw [count_completed, count_completed, h.count]
  rw [Envelope.mk.injEq]
  refine ⟨houtcome.status.trans houtcome'.status.symm, houtcome.code.trans houtcome'.code.symm,
    houtcome.exitCode.trans houtcome'.exitCode.symm, ?_, ?_, hinfo⟩
  · rw [message_completed, message_completed, h.message]
  · rw [data_completed, data_completed, h.data]

/-! ## What the starts give -/

theorem exitCode_eq_zero (code : ResultCode) :
    (ExitStatus.ofResult code).code = 0 ↔ code = .ok := by
  cases code <;> decide

namespace Start

theorem exitCode_envelope (start : Start) :
    start.envelope.exitCode = (ExitStatus.ofResult start.envelope.code).code := by
  cases start <;> rfl

theorem schemaVersion_envelope (start : Start) :
    start.envelope.info.schemaVersion = schemaVersion := by
  cases start <;> rfl

/-- Only an error can be started with a code that does not go with its status. -/
theorem status_envelope (start : Start) :
    (start.envelope.status = .success ↔ start.envelope.exitCode = 0) ↔
      ∀ message, start ≠ .error .ok message := by
  rw [exitCode_envelope, exitCode_eq_zero]
  cases start with
  | success data => exact iff_of_true (iff_of_true rfl rfl) nofun
  | calcError e =>
    refine iff_of_true (iff_of_false nofun ?_) nofun
    cases e <;> exact nofun
  | error code message =>
    by_cases hcode : code = .ok
    · subst hcode
      exact iff_of_false (fun h => nomatch h.2 rfl) fun h => h message rfl
    · refine iff_of_true (iff_of_false nofun hcode) fun message' heq => ?_
      cases heq
      exact hcode rfl

/-- Such an error has the exit code of a success. -/
example : (error .ok "").envelope.status = .error ∧ (error .ok "").envelope.exitCode = 0 :=
  ⟨rfl, rfl⟩

end Start

/-- **Calls never change the outcome, and the last call of a kind decides on its field.** So calls
with the same last calls give the same text, and the status of an envelope agrees with its exit code
unless it was started as an error that is none. -/
theorem completed_fields (start : Start) (calls : List Call) :
    let e := completed start.envelope calls
    (e.status = start.envelope.status ∧ e.code = start.envelope.code ∧
      e.exitCode = start.envelope.exitCode ∧
      e.exitCode = (ExitStatus.ofResult e.code).code) ∧
    (e.data = (last? Call.data? calls).or start.envelope.data ∧
      e.message = (last? Call.message? calls).getD start.envelope.message ∧
      e.info.entityType = (last? Call.entityType? calls).or start.envelope.info.entityType ∧
      e.info.count = (last? Call.count? calls).or start.envelope.info.count ∧
      e.info.schemaVersion = schemaVersion) ∧
    (∀ calls', SameLast calls calls' → (completed start.envelope calls').render = e.render) ∧
    ((e.status = .success ↔ e.exitCode = 0) ↔ ∀ message, start ≠ .error .ok message) := by
  intro e
  have houtcome : SameOutcome e start.envelope := sameOutcome_completed start.envelope calls
  have hexit : e.exitCode = (ExitStatus.ofResult e.code).code := by
    rw [houtcome.exitCode, houtcome.code, start.exitCode_envelope]
  have hversion : e.info.schemaVersion = schemaVersion :=
    houtcome.schemaVersion.trans start.schemaVersion_envelope
  refine ⟨⟨houtcome.status, houtcome.code, houtcome.exitCode, hexit⟩,
    ⟨data_completed _ calls, message_completed _ calls, entityType_completed _ calls,
      count_completed _ calls, hversion⟩, fun calls' h => ?_, ?_⟩
  · exact congrArg render (completed_congr h start.envelope).symm
  · rw [houtcome.status, houtcome.exitCode]
    exact start.status_envelope

end Abacus.Envelope
