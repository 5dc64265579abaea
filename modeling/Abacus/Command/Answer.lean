import Abacus.Aggregate
import Abacus.Command.Basic
import Abacus.Demo
import Abacus.Envelope
import Abacus.Outline
import Abacus.Script
import Abacus.Settings.Save

/-!
# What commands answer

The answer of a command in both of its forms: the lines of text, with a complaint if something was
rejected, and the envelope. Only one of the two is printed, and the exit status goes with both.
-/

namespace Abacus

/-- What a command answers, for either form of output. -/
structure Answer where
  status : ExitStatus
  /-- The lines of the text form. -/
  lines : List String
  /-- What went wrong, in the text form. -/
  complaint : Option String := none
  /-- The JSON form; an answer without one is always given as text. -/
  envelope : Option Envelope

namespace Answer

/-- A success. -/
def success (lines : List String) (envelope : Envelope) : Answer :=
  { status := .success, lines := lines, envelope := some envelope }

/-- A rejected command. -/
def rejected (code : ResultCode) (message : String) : Answer where
  status := .ofResult code
  lines := []
  complaint := some message
  envelope := some (.error code message)

/-- Lines of text, each with its end. -/
def ended (lines : List String) : String := String.join (lines.map (· ++ "\n"))

/-- What is printed. -/
def stdout (a : Answer) (json : Bool) : String :=
  match a.envelope, json with
  | some e, true => e.render ++ "\n"
  | _, _ => ended a.lines

/-- What is printed among the messages to the user. -/
def stderr (a : Answer) (json : Bool) : String :=
  match a.envelope, json, a.complaint with
  | some _, true, _ => ""
  | _, _, some message => "Error: " ++ message ++ "\n"
  | _, _, none => ""

end Answer

/-! ## Sums and products -/

namespace Aggregate

/-- The result of a fold as JSON. -/
def resultJson (numbers : List Int64) (initial value : Int64) : Json.Value :=
  .obj [("numbers", .arr (numbers.map .int64)), ("initial", .int64 initial),
    ("value", .int64 value)]

def answer (numbers : List Int64) (initial value : Int64) : Answer :=
  .success [Text.renderInt64 value] <|
    ((Envelope.success (resultJson numbers initial value)).withEntityType .aggregate).withCount
      numbers.length.toUInt64

end Aggregate

/-! ## Scripts -/

namespace Step

/-- A step on a line: the operation, the value and what the operation shows. -/
def line (s : Step) : String :=
  Text.pad .left 12 s.operation ++ " " ++ Text.pad .right 8 (Text.renderInt64 s.value) ++
    match s.output with
    | some output => "  => " ++ output.render
    | none => ""

end Step

namespace Report

/-- The number of completed steps. -/
def count (r : Report) : UInt64 := r.steps.length.toUInt64

def answer (r : Report) : Answer :=
  .success (r.steps.map Step.line ++ ["Final: " ++ Text.renderInt64 r.finalValue])
    (((Envelope.success r.toJson).withEntityType .script).withCount r.count)

end Report

namespace Failure

/-- The answer shows what ran before the rejected step. -/
def answer (f : Failure) : Answer where
  status := .ofResult (.ofCalcError f.source)
  lines := f.completed.steps.map Step.line
  complaint := some f.message
  envelope := some <|
    ((((Envelope.ofCalcError f.source).withData f.completed.toJson).withMessage
      f.message).withEntityType .script).withCount f.completed.count

end Failure

namespace Script

/-- Reads a script and runs it. -/
def answer (variant : Variant) (initial : Int64) (policy : SqrtPolicy) (texts : List String) :
    Answer :=
  match parse variant texts with
  | .error e => .rejected .invalidInput e.message
  | .ok script =>
    match script.execute initial policy with
    | .ok report => report.answer
    | .error failure => failure.answer

end Script

/-! ## Demonstration, self-check and outline -/

namespace DemoReport

def answer (r : DemoReport) : Answer :=
  .success r.lines ((Envelope.success r.toJson).withEntityType .demo)

end DemoReport

namespace SelfCheck

def answer (c : SelfCheck) : Answer :=
  if c.passed then
    .success ["Self-check passed"]
      (((Envelope.success c.toJson).withEntityType .selfCheck).withMessage "Self-check passed")
  else .rejected .checkFailed c.failureMessage

end SelfCheck

namespace OutlineSymbol

/-- A symbol on a line. -/
def line (s : OutlineSymbol) : String :=
  let overridden := match s.overrides with
    | some target => " overrides " ++ target
    | none => ""
  let implemented :=
    if s.implements = [] then "" else " implements " ++ Text.joined ", " s.implements
  let text := Text.pad .left 9 s.kind.name ++ " " ++ Text.pad .left 40 s.qualifiedName ++
    overridden ++ implemented
  String.ofList (Text.trimEnd text.toList)

end OutlineSymbol

namespace Outline

def answer : Answer :=
  .success (symbols.map OutlineSymbol.line) <|
    ((Envelope.success (.arr (symbols.map OutlineSymbol.toJson))).withEntityType .outline).withCount
      symbols.length.toUInt64

end Outline

/-! ## Settings -/

namespace Settings

/-- The settings are always shown as text. -/
def answer (s : Settings) : Answer where
  status := .success
  lines := ["Current Configuration:", String.ofList (List.replicate 50 '='), s.toToml]
  envelope := none

/-- The answer to a fresh settings file. -/
def initAnswer (p : Path) : Answer :=
  .success
    ["Created configuration file at: " ++ p.text, "Edit this file to customize your settings."]
    ((Envelope.success (.str p.text)).withMessage "Created configuration file")

end Settings

end Abacus
