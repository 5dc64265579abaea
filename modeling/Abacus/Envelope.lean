import Abacus.Calculator.Error
import Abacus.Json.Record
import Abacus.Json.Writer

/-!
# The result envelope

Every command can print its result as one JSON document: whether it succeeded, a machine-readable
code, the exit code of the process, a message, the data, and some metadata. An envelope is started
by a success or by an error and then completed field by field; status, code and exit code stay as
they were at the start.
-/

namespace Abacus

/-- The version of the envelope's schema. -/
def schemaVersion : String := "1.0.0"

/-- Whether an envelope tells of a success or of a fault. -/
inductive Status where
  | success
  | error
  deriving DecidableEq, Repr

namespace Status

def variants : List (String × Status) := [("success", success), ("error", error)]

def name : Status → String
  | success => "success"
  | error => "error"

end Status

/-- Machine-readable results. -/
inductive ResultCode where
  | ok
  | invalidArgument
  | domainError
  | invalidInput
  | configError
  | checkFailed
  deriving DecidableEq, Repr

namespace ResultCode

def variants : List (String × ResultCode) :=
  [("OK", ok), ("INVALID_ARGUMENT", invalidArgument), ("DOMAIN_ERROR", domainError),
    ("INVALID_INPUT", invalidInput), ("CONFIG_ERROR", configError), ("CHECK_FAILED", checkFailed)]

def name : ResultCode → String
  | ok => "OK"
  | invalidArgument => "INVALID_ARGUMENT"
  | domainError => "DOMAIN_ERROR"
  | invalidInput => "INVALID_INPUT"
  | configError => "CONFIG_ERROR"
  | checkFailed => "CHECK_FAILED"

/-- The code of a rejected operation. -/
def ofCalcError (e : CalcError) : ResultCode :=
  match e.kind with
  | .invalidArgument => invalidArgument
  | .domain => domainError

end ResultCode

/-- How the process ends: calculations that fail with 1, bad input or settings with 2. -/
inductive ExitStatus where
  | success
  | failure
  | usage
  deriving DecidableEq, Repr

namespace ExitStatus

def variants : List (String × ExitStatus) :=
  [("Success", success), ("Failure", failure), ("Usage", usage)]

def name : ExitStatus → String
  | success => "Success"
  | failure => "Failure"
  | usage => "Usage"

/-- The exit code of the process. -/
def code : ExitStatus → UInt8
  | success => 0
  | failure => 1
  | usage => 2

/-- The exit status that goes with a result. -/
def ofResult : ResultCode → ExitStatus
  | .ok => success
  | .invalidArgument | .domainError | .checkFailed => failure
  | .invalidInput | .configError => usage

end ExitStatus

/-- What the data of an envelope describes. -/
inductive EntityType where
  | aggregate
  | script
  | demo
  | selfCheck
  | outline
  deriving DecidableEq, Repr

namespace EntityType

def variants : List (String × EntityType) :=
  [("aggregate", aggregate), ("script", script), ("demo", demo), ("self_check", selfCheck),
    ("outline", outline)]

def name : EntityType → String
  | aggregate => "aggregate"
  | script => "script"
  | demo => "demo"
  | selfCheck => "self_check"
  | outline => "outline"

end EntityType

/-- Metadata of an envelope. -/
structure Meta where
  schemaVersion : String := Abacus.schemaVersion
  entityType : Option EntityType := none
  /-- The number of items in the data. -/
  count : Option UInt64 := none
  deriving DecidableEq, Repr

/-- The result of a command. -/
structure Envelope where
  status : Status
  code : ResultCode
  exitCode : UInt8
  message : String
  data : Option Json.Value
  info : Meta

namespace Envelope

/-! ## Building -/

/-- A success with data. -/
def success (data : Json.Value) : Envelope where
  status := .success
  code := .ok
  exitCode := ExitStatus.success.code
  message := "Operation completed successfully"
  data := some data
  info := {}

/-- An error without data. -/
def error (code : ResultCode) (message : String) : Envelope where
  status := .error
  code := code
  exitCode := (ExitStatus.ofResult code).code
  message := message
  data := none
  info := {}

/-- The error of a rejected operation. -/
def ofCalcError (e : CalcError) : Envelope := error (.ofCalcError e) e.message

/-- Replaces the data. -/
def withData (e : Envelope) (data : Json.Value) : Envelope := { e with data := some data }

/-- Replaces the message. -/
def withMessage (e : Envelope) (message : String) : Envelope := { e with message := message }

/-- Replaces the kind of thing that the data holds. -/
def withEntityType (e : Envelope) (entityType : EntityType) : Envelope :=
  { e with info := { e.info with entityType := some entityType } }

/-- Replaces the number of things that the data holds. -/
def withCount (e : Envelope) (count : UInt64) : Envelope :=
  { e with info := { e.info with count := some count } }

end Envelope

/-! ## Writing -/

namespace Meta

/-- Absent parts have no field. -/
def toJson (m : Meta) : Json.Value :=
  .obj ([("schema_version", .str m.schemaVersion)] ++
    (match m.entityType with
      | some t => [("entity_type", .str t.name)]
      | none => []) ++
    (match m.count with
      | some n => [("count", .nat n.toNat)]
      | none => []))

end Meta

namespace Envelope

/-- The data of an error is written as `null`. -/
def toJson (e : Envelope) : Json.Value :=
  .obj [("status", .str e.status.name), ("code", .str e.code.name),
    ("exit_code", .nat e.exitCode.toNat), ("message", .str e.message),
    ("data", .orNull e.data), ("meta", e.info.toJson)]

/-- The document that is printed. -/
def render (e : Envelope) : String := e.toJson.pretty

end Envelope

/-! ## Reading -/

open Json (Reader Shape)

namespace Meta

def shape : Shape where
  name := "Meta"
  fields := [⟨"schema_version", Reader.check Reader.text⟩,
    ⟨"entity_type", Reader.check (Reader.optional (Reader.variant EntityType.variants))⟩,
    ⟨"count", Reader.check (Reader.optional Reader.size)⟩]
  defaults := false

def read : Reader Meta := fun d => do
  let values ← shape.read d
  return {
    schemaVersion := ← values.get "schema_version" Reader.text
    entityType := ← values.getD "entity_type" (Reader.optional (Reader.variant EntityType.variants))
      none
    count := ← values.getD "count" (Reader.optional Reader.size) none }

end Meta

namespace Envelope

/-- Data of any kind; the envelope itself is open around it. -/
def readData : Reader (Option Json.Value) :=
  Reader.optional (Reader.anything (Json.Value.depthLimit - 1))

def shape : Shape where
  name := "Envelope"
  fields := [⟨"status", Reader.check (Reader.variant Status.variants)⟩,
    ⟨"code", Reader.check (Reader.variant ResultCode.variants)⟩,
    ⟨"exit_code", Reader.check Reader.uint8⟩,
    ⟨"message", Reader.check Reader.text⟩,
    ⟨"data", Reader.check readData⟩,
    ⟨"meta", Reader.check Meta.read⟩]
  defaults := false

def read : Reader Envelope := fun d => do
  let values ← shape.read d
  return {
    status := ← values.get "status" (Reader.variant Status.variants)
    code := ← values.get "code" (Reader.variant ResultCode.variants)
    exitCode := ← values.get "exit_code" Reader.uint8
    message := ← values.get "message" Reader.text
    data := ← values.getD "data" readData none
    info := ← values.get "meta" Meta.read }

end Envelope

end Abacus
