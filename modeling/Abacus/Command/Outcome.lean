import Abacus.Command.Answer
import Abacus.Command.Events

/-!
# Carrying out commands

A command with its settings, in a file tree, gives an answer and leaves a file tree behind. Only a
fresh settings file changes the tree, and only writing it can fail for reasons of its own.
-/

namespace Abacus

/-- What a command printed and left behind. -/
structure Outcome where
  /-- The exit status, or why the settings file could not be written. -/
  ending : Except FileError ExitStatus
  stdout : String := ""
  stderr : String := ""
  tree : FileTree

namespace Outcome

/-- The failure to write the settings file, with its causes. -/
def failureMessage (e : FileError) : String :=
  "Failed to write configuration file: " ++ (Settings.InitError.io e).message ++ ": " ++ e.message

end Outcome

namespace Command

/-- The answer of a command and the file tree that it leaves. -/
def execute (c : Command) (s : Settings) (tree : FileTree) (here : Location) :
    Except FileError (Answer × FileTree) :=
  match c with
  | .demo => .ok (Demo.report.answer, tree)
  | .selfCheck => .ok (SelfCheck.run.answer, tree)
  | .sum numbers initial =>
    let initial := initial.getD s.defaults.sumSeed
    .ok (Aggregate.answer numbers initial (Aggregate.sum numbers (some initial)), tree)
  | .product numbers initial =>
    let initial := initial.getD s.defaults.productSeed
    .ok (Aggregate.answer numbers initial (Aggregate.product numbers (some initial)), tree)
  | .run variant initial operations =>
    let initial := initial.getD s.defaults.initialValue
    .ok (Script.answer variant initial s.scientific.negativeSqrt operations, tree)
  | .outline => .ok (Outline.answer, tree)
  | .init force =>
    match Settings.initFile tree here (.ofLocation here) force with
    | .ok (p, tree) => .ok (Settings.initAnswer p, tree)
    | .error (.alreadyExists p) =>
      .ok (.rejected .configError (Settings.InitError.alreadyExists p).message, tree)
    | .error (.io e) => .error e
  | .config => .ok (s.answer, tree)

/-- Carries out a command and prints its answer. -/
def perform (c : Command) (s : Settings) (json : Bool) (tree : FileTree) (here : Location) :
    Outcome :=
  match c.execute s tree here with
  | .ok (answer, tree) =>
    { ending := .ok answer.status
      stdout := answer.stdout json
      stderr := answer.stderr json
      tree := tree }
  | .error e => { ending := .error e, tree := tree }

end Command

end Abacus
