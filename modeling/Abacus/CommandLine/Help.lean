import Abacus.CommandLine.Basic

/-!
# Help

The text that explains the command line, and what is printed where the arguments do not ask for a
command.

The wording of these texts, that of `UsageError.message` included, and the name that the program has
in them are chosen here and are not meant to agree with those of other programs that read the same
command line. What counts is the kind of the error (`UsageError.kind`): which of the texts is shown,
on which of the two streams, and with what exit code.
-/

namespace Abacus.CommandLine

/-- The answer to a request for the version. -/
def versionText : String := "abacus 0.1.0\n"

/-- The answer to a request for help. -/
def helpText : String :=
  "Accumulator, memory and history calculators\n\n" ++
  "Usage: abacus [-c <PATH>] [--json] <COMMAND>\n\n" ++
  "Commands:\n" ++
  "  demo                                         Exercise every calculator variant\n" ++
  "  self-check                                   Run the built-in self-check\n" ++
  "  sum [-i <INITIAL>] [N]...                    Sum a list of integers\n" ++
  "  product [-i <INITIAL>] [N]...                Multiply a list of integers\n" ++
  "  run [-v <VARIANT>] [-i <INITIAL>] <OP>...    Apply operations to one calculator\n" ++
  "  outline                                      List the public symbols of the model\n" ++
  "  init [-f]                                    Write a default settings file\n" ++
  "  config                                       Display active settings\n" ++
  "  help [COMMAND]                               Print this text\n\n" ++
  "Options:\n" ++
  "  -c, --config <PATH>    Settings file to use\n" ++
  "      --json             Print a JSON envelope instead of text\n" ++
  "  -h, --help             Print this text\n" ++
  "  -V, --version          Print the version\n"

end Abacus.CommandLine

namespace Abacus.UsageError

/-- What is printed as asked for. -/
def stdout : UsageError → String
  | helpWanted => CommandLine.helpText
  | versionWanted => CommandLine.versionText
  | _ => ""

/-- What is printed as a complaint. -/
def stderr : UsageError → String
  | helpWanted | versionWanted => ""
  | nothingGiven => CommandLine.helpText
  | e => "error: " ++ e.message ++ "\n"

end Abacus.UsageError
