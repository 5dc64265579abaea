import Abacus.CommandLine.Help
import Abacus.Program
import Std.Time.Format

/-!
# The executable

Takes in the part of the file system that a run can look at, runs the program on it, prints what it
printed, and writes the files that it changed.
-/

namespace Abacus.Main

/-- The location of an absolute path without points. -/
def locationOf (text : String) : Location :=
  (Path.mk text).steps.filterMap fun
    | .name n => some n
    | _ => none

/-- The variables of the environment, which the system keeps in one text with a zero behind each. -/
def environmentOf (text : String) : List (String × String) :=
  (Text.pieces '\x00' text.toList).filterMap fun cs =>
    (Text.cut '=' cs).map fun (name, value) => (String.ofList name, String.ofList value)

/-- The locations that a run looks at: the settings directories above the current one, and where a
settings file of one's own choice may be. -/
def watched (here : Location) (config : Option String) : List Location :=
  let folders := here.ancestors.flatMap fun above =>
    [above ++ [Settings.folderName], above ++ [Settings.folderName, Settings.fileName]]
  let chosen := match config with
    | none => []
    | some text =>
      let p : Path := ⟨text⟩
      (if p.isAbsolute then [[]] else here.ancestors).flatMap fun start =>
        Path.passed start p.parts
  folders ++ chosen

/-- Stands for a file that holds no text; it is no TOML. -/
def unreadable : String := "\x00"

/-- Takes what is at a location into a tree. -/
def take (tree : FileTree) (l : Location) : IO FileTree := do
  if !tree.isDirectoryAt l.dropLast || (tree.get? l).isSome then return tree
  try
    return tree.put l (.file (← IO.FS.readFile l.render))
  catch e =>
    match e with
    | .noFileOrDirectory .. => return tree
    | .inappropriateType .. => return tree.put l .empty
    | _ => return tree.put l (.file unreadable)

/-- Takes in the workspace of a run. -/
def workspace (config : Option String) : IO Workspace := do
  let here := locationOf (← IO.currentDir).toString
  let environment := environmentOf (← IO.FS.readFile "/proc/self/environ")
  let tree ← (watched here config).foldlM take (FileTree.empty.put here .empty)
  return { tree := tree, here := here, environment := environment }

/-- Writes the files that a run changed. -/
def keep (before after : FileTree) : IO Unit := do
  for (l, content) in after.files do
    if before.content? l ≠ some content then
      IO.FS.createDirAll (Location.render l.dropLast)
      IO.FS.writeFile l.render content

/-- The time of day, to the millisecond. -/
def clock : IO String := do
  let t ← Std.Time.PlainDateTime.now
  let digits (width : Nat) (n : Int) : String :=
    let s := Text.renderInt n
    String.ofList (List.replicate (width - s.length) '0') ++ s
  return digits 2 t.hour.val ++ ":" ++ digits 2 t.minute.val ++ ":" ++ digits 2 t.second.val ++
    "." ++ digits 3 t.millisecond.val

/-- Prints texts on both outputs. -/
def print (stdout stderr : String) : IO Unit := do
  (← IO.getStderr).putStr stderr
  (← IO.getStdout).putStr stdout

/-- A run with the arguments behind the name of the program. -/
def run (args : List String) : IO UInt32 := do
  let config := (CommandLine.parse args).toOption.bind (·.config)
  let w ← workspace config
  match Program.run w args with
  | .error e =>
    print e.stdout e.stderr
    return e.exitCode.toUInt32
  | .ok finish =>
    keep w.tree finish.tree
    print finish.stdout (finish.stderr (← clock))
    return finish.exitCode.toUInt32

end Abacus.Main

/-- Runs the program on its arguments and ends with its exit status. -/
def main (args : List String) : IO UInt32 := Abacus.Main.run args
