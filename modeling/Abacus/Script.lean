import Abacus.Json.Value
import Abacus.Machine

/-!
# Scripts

A script is a list of operations for one variant, checked as a whole before anything runs: it holds
a proof that the variant supports every one of them. A run stops at the first rejected operation and
keeps the steps before it.

Parsing reports the first text that is no operation, even behind an operation that the variant does
not support; only then the first unsupported operation.
-/

namespace Abacus

/-- One completed operation. -/
structure Step where
  operation : String
  /-- The accumulator after the step. -/
  value : Int64
  output : Option Output

/-- What a run of a script did. -/
structure Report where
  variant : Variant
  initial : Int64
  steps : List Step
  finalValue : Int64

/-- A rejected step; the report holds what ran before it. -/
structure Failure where
  /-- The place of the rejected operation, counted from one. -/
  step : Nat
  operation : String
  source : CalcError
  completed : Report

namespace Failure

def message (f : Failure) : String :=
  "Step " ++ Text.renderNat f.step ++ " (" ++ f.operation ++ ") failed: " ++ f.source.message

end Failure

/-! ## Runs of a machine -/

namespace Machine

/-- The steps of a run and the operation at which it stopped, if it did. -/
structure Run where
  steps : List Step
  stop : Option (Operation × CalcError)

/-- Carries out operations in turn; there is no run if the machine does not know one of them. -/
def run? (m : Machine) : List Operation → Option Run
  | [] => some ⟨[], none⟩
  | op :: rest =>
    match m.step? op with
    | none => none
    | some (.error e) => some ⟨[], some (op, e)⟩
    | some (.ok (m', output)) =>
      (m'.run? rest).map fun r => { r with steps := ⟨op.render, m'.value, output⟩ :: r.steps }

/-- What is reported during a run. -/
def runEvents (m : Machine) : List Operation → List Log.Event
  | [] => []
  | op :: rest =>
    m.events op ++
      match m.step? op with
      | some (.ok (m', _)) => m'.runEvents rest
      | _ => []

/-- Operations that the variant supports can be run. -/
theorem isSome_run? {m : Machine} {ops : List Operation}
    (h : ∀ op ∈ ops, m.variant.supports op = true) : (m.run? ops).isSome = true := by
  induction ops generalizing m with
  | nil => rfl
  | cons op rest ih =>
    have hstep := isSome_step?_iff m op
    rw [h op List.mem_cons_self] at hstep
    rw [run?]
    match hs : m.step? op with
    | none => simp [hs] at hstep
    | some (.error e) => rfl
    | some (.ok (m', output)) =>
      simp only [Option.isSome_map]
      refine ih fun op' hop' => ?_
      rw [variant_of_step? hs]
      exact h op' (List.mem_cons_of_mem _ hop')

end Machine

/-! ## Scripts -/

/-- Operations for one variant, each of which it supports. -/
structure Script where
  variant : Variant
  operations : List Operation
  supported : ∀ op ∈ operations, variant.supports op = true

namespace Script

/-- The script of a list of operations, unless the variant does not support one of them. -/
def ofOperations (variant : Variant) (operations : List Operation) : Except ScriptError Script :=
  match h : operations.find? fun op => !variant.supports op with
  | some op => .error (.unsupported op.name variant)
  | none => .ok ⟨variant, operations, by simpa using h⟩

/-- Reads every text in turn; the first that is no operation decides. -/
def parseAll : List String → Except ScriptError (List Operation)
  | [] => .ok []
  | text :: rest => do
    let op ← Operation.parse text
    let ops ← parseAll rest
    return op :: ops

/-- The script of a list of operation texts. -/
def parse (variant : Variant) (texts : List String) : Except ScriptError Script :=
  parseAll texts >>= ofOperations variant

/-- The machine a script starts on. -/
def machine (s : Script) (initial : Int64) (policy : SqrtPolicy) : Machine :=
  .start s.variant initial policy

/-- The run of a script; it exists because every operation is supported. -/
def run (s : Script) (initial : Int64) (policy : SqrtPolicy) : Machine.Run :=
  ((s.machine initial policy).run? s.operations).get (Machine.isSome_run? fun op hop => by
    have hv : (s.machine initial policy).variant = s.variant := by
      unfold machine Machine.start; cases s.variant <;> rfl
    rw [hv]
    exact s.supported op hop)

/-- The report of a list of steps. -/
def report (s : Script) (initial : Int64) (steps : List Step) : Report where
  variant := s.variant
  initial := initial
  steps := steps
  finalValue := (steps.getLast?.map (·.value)).getD initial

/-- Runs every operation on a fresh calculator. -/
def execute (s : Script) (initial : Int64) (policy : SqrtPolicy) : Except Failure Report :=
  let r := s.run initial policy
  match r.stop with
  | none => .ok (s.report initial r.steps)
  | some (op, e) =>
    .error ⟨r.steps.length + 1, op.render, e, s.report initial r.steps⟩

/-- What is reported while the script runs. -/
def events (s : Script) (initial : Int64) (policy : SqrtPolicy) : List Log.Event :=
  (s.machine initial policy).runEvents s.operations

end Script

/-! ## As JSON -/

namespace Step

/-- A step without output has no field for it. -/
def toJson (s : Step) : Json.Value :=
  .obj ([("operation", .str s.operation), ("value", .int64 s.value)] ++
    match s.output with
    | none => []
    | some output => [("output", output.toJson)])

end Step

namespace Report

def toJson (r : Report) : Json.Value :=
  .obj [("variant", .str r.variant.name), ("initial", .int64 r.initial),
    ("steps", .arr (r.steps.map Step.toJson)), ("final_value", .int64 r.finalValue)]

end Report

end Abacus
