import Abacus.Command.Basic

/-!
# The command line

What the arguments of a run ask for: one command with its own options, a settings file of one's own
choice, and the form of the output.
-/

namespace Abacus

/-- What the arguments of a run ask for. -/
structure CommandLine where
  /-- The path of a settings file. -/
  config : Option String := none
  /-- Print an envelope instead of text. -/
  json : Bool := false
  command : Command
  deriving DecidableEq, Repr

/-- Why arguments do not ask for a command. -/
inductive UsageError where
  | helpWanted
  | versionWanted
  | nothingGiven
  | missingCommand
  | unknownCommand
  | unknownArgument
  /-- An option is given twice. -/
  | repeated
  /-- An option that takes no value has one. -/
  | unwantedValue
  /-- A value is missing or not one of those to choose from. -/
  | invalidValue
  /-- A value is no integer of 64 bits. -/
  | invalidNumber
  /-- A command lacks the values that it needs. -/
  | missingValues
  deriving DecidableEq, Repr

namespace UsageError

/-- The kind of the error. -/
def kind : UsageError → String
  | helpWanted => "DisplayHelp"
  | versionWanted => "DisplayVersion"
  | nothingGiven => "DisplayHelpOnMissingArgumentOrSubcommand"
  | missingCommand => "MissingSubcommand"
  | unknownCommand => "InvalidSubcommand"
  | unknownArgument => "UnknownArgument"
  | repeated => "ArgumentConflict"
  | unwantedValue => "TooManyValues"
  | invalidValue => "InvalidValue"
  | invalidNumber => "ValueValidation"
  | missingValues => "MissingRequiredArgument"

/-- The error in words. They are chosen here, and nothing but the kind of the error counts. -/
def message : UsageError → String
  | helpWanted | versionWanted => ""
  | nothingGiven | missingCommand => "a command is missing"
  | unknownCommand => "there is no such command"
  | unknownArgument => "an argument is not known"
  | repeated => "an option is given twice"
  | unwantedValue => "an option takes no value"
  | invalidValue => "a value is missing or not one of those to choose from"
  | invalidNumber => "a value is no integer of 64 bits"
  | missingValues => "the values of the command are missing"

/-- The exit code: help and version that were asked for are no failure. -/
def exitCode : UsageError → UInt8
  | helpWanted | versionWanted => 0
  | _ => 2

end UsageError

end Abacus
