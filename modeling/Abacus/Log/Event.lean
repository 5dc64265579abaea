import Abacus.Text.Pad

/-!
# Log events

What the program reports while it works. An event belongs to a target, which is the part of the
program that reports it, and has a level. A line of the log shows the time, the level, the target
and the message.
-/

namespace Abacus.Log

/-- Levels from the most to the least severe. -/
inductive Level where
  | error
  | warn
  | info
  | debug
  | trace
  deriving DecidableEq, Repr

namespace Level

/-- The place of a level: the more severe, the lower. -/
def rank : Level → Nat
  | error => 1
  | warn => 2
  | info => 3
  | debug => 4
  | trace => 5

def name : Level → String
  | error => "ERROR"
  | warn => "WARN"
  | info => "INFO"
  | debug => "DEBUG"
  | trace => "TRACE"

end Level

/-- What happened, in which part of the program, and how much it matters. -/
structure Event where
  level : Level
  target : String
  message : String
  deriving DecidableEq, Repr

namespace Event

/-- The line of an event that happened at `time`. -/
def line (time : String) (e : Event) : String :=
  time ++ " " ++ Text.pad .right 5 e.level.name ++ " " ++ e.target ++ ": " ++ e.message

end Event

end Abacus.Log
