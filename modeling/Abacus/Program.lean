import Abacus.Command.Outcome
import Abacus.CommandLine.Parser
import Abacus.Log.Filter

/-!
# The program

One run of the program: the command line is read, the settings are loaded, and the command is
carried out while the log filter decides which events are shown.

What the log shows is decided by the settings alone, or by a variable of the environment in their
place; it never reaches the standard output, the files or the exit code.
-/

namespace Abacus

namespace Log

/-- A line among the messages to the user. -/
inductive Line where
  | event (e : Event)
  | text (s : String)
  deriving DecidableEq, Repr

namespace Line

/-- The line, for events at a time, with its end. -/
def render (time : String) : Line → String
  | event e => e.line time ++ "\n"
  | text s => s

end Line

end Log

/-- What a run of the program leaves behind. -/
structure Finish where
  exitCode : UInt8
  stdout : String
  messages : List Log.Line
  tree : FileTree

namespace Finish

/-- The messages to the user, for events at a time. -/
def stderr (f : Finish) (time : String) : String :=
  String.join (f.messages.map (Log.Line.render time))

end Finish

namespace Program

/-- The variable whose directives replace those of the settings. -/
def filterVariable : String := "RUST_LOG"

/-- The settings of a run. A settings file of one's own choice has to exist. -/
def settings (w : Workspace) (config : Option String) : Except String Settings :=
  match config with
  | none => (Settings.load w).mapError Settings.LoadError.message
  | some text =>
    if w.holds ⟨text⟩ then (Settings.loadFrom w ⟨text⟩).mapError Settings.LoadError.message
    else .error ("Configuration file not found: " ++ text)

/-- The end of a run without settings. -/
def unsettled (w : Workspace) (json : Bool) (message : String) : Finish :=
  let envelope := Envelope.error .configError message
  { exitCode := envelope.exitCode
    stdout := if json then envelope.render ++ "\n" else ""
    messages := if json then [] else [.text ("Configuration error: " ++ message ++ "\n")]
    tree := w.tree }

/-- The directives of the log filter. -/
def directives (w : Workspace) (s : Settings) : String :=
  (w.valueOf? filterVariable).getD s.logging.directives

/-- What the log shows of some events, behind what is wrong with its directives. -/
def logged (directives : String) (events : List Log.Event) : List Log.Line :=
  let filter := Log.Filter.ofText directives
  (Log.Filter.complaints directives).map (fun s => .text (s ++ "\n")) ++
    (events.filter filter.admits).map .event

/-- The event of loaded settings. -/
def loaded (s : Settings) : Log.Event := commandEvent .debug "config" ("loaded: " ++ s.inspect)

/-- Carries out a command with settings. -/
def carryOut (w : Workspace) (json : Bool) (c : Command) (s : Settings) : Finish :=
  let outcome := c.perform s json w.tree w.here
  let (exitCode, complaint) := match outcome.ending with
    | .ok status => (status.code, outcome.stderr)
    | .error e =>
      (ExitStatus.usage.code, outcome.stderr ++ "Error: " ++ Outcome.failureMessage e ++ "\n")
  { exitCode := exitCode
    stdout := outcome.stdout
    messages := logged (directives w s) (loaded s :: c.events s) ++ [.text complaint]
    tree := outcome.tree }

/-- A run of the program with its arguments. -/
def run (w : Workspace) (args : List String) : Except UsageError Finish := do
  let line ← CommandLine.parse args
  match settings w line.config with
  | .error message => return unsettled w line.json message
  | .ok s => return carryOut w line.json line.command s

end Program

end Abacus
