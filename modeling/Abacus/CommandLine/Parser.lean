import Abacus.CommandLine.Basic

/-!
# Reading the command line

Arguments are read in turn, first those of the program, then, from the name of a command on, those
of the command. An argument that starts with hyphens is an option, unless it could be a negative
number where a number may stand; `--` ends the options.

The value of an option and the values of a command stay *pending* until something else is
recognised, and are checked only then: an option that nobody knows is reported before a value that
is wrong.

An option may be given once before and once behind the name of the command. What is said behind the
name counts.
-/

namespace Abacus.CommandLine

/-! ## Options -/

/-- An option that takes a value. -/
inductive ValueOption where
  | config
  | initial
  | variant
  deriving DecidableEq, Repr

/-- An option that takes none. -/
inductive Switch where
  | json
  | force
  | help
  | version
  deriving DecidableEq, Repr

/-- An option: one that takes a value or one that stands alone. -/
inductive Opt where
  | value (o : ValueOption)
  | switch (s : Switch)
  deriving DecidableEq, Repr

/-- Whose arguments are read: those of the program, or of a command. -/
inductive Level where
  | program
  | command (name : CommandName)
  deriving DecidableEq, Repr

namespace Level

/-- The command starts from a number. -/
def hasInitial : Level → Bool
  | command .sum | command .product | command .run => true
  | _ => false

/-- The options of a level by their long names. -/
def longOptions (level : Level) : List (String × Opt) :=
  [("help", .switch .help), ("config", .value .config), ("json", .switch .json)] ++
    (if level = program then [("version", .switch .version)] else []) ++
    (if level.hasInitial then [("initial", .value .initial)] else []) ++
    (if level = command .run then [("variant", .value .variant)] else []) ++
    (if level = command .init then [("force", .switch .force)] else [])

/-- The options of a level by their letters. -/
def shortOptions (level : Level) : List (Char × Opt) :=
  [('h', .switch .help), ('c', .value .config)] ++
    (if level = program then [('V', .switch .version)] else []) ++
    (if level.hasInitial then [('i', .value .initial)] else []) ++
    (if level = command .run then [('v', .value .variant)] else []) ++
    (if level = command .init then [('f', .switch .force)] else [])

/-- The command takes a list of numbers. -/
def takesNumbers : Level → Bool
  | command .sum | command .product => true
  | _ => false

/-- The command takes a list of values. -/
def takesValues (level : Level) : Bool := level.takesNumbers || level = command .run

end Level

/-- What has been accepted so far. -/
structure Given where
  config : Option String := none
  json : Bool := false
  initial : Option Int64 := none
  variant : Option Variant := none
  force : Bool := false
  numbers : List Int64 := []
  operations : List String := []
  deriving DecidableEq, Repr

/-- What has been read and not checked yet. -/
inductive Pending where
  /-- An option that waits for its value. -/
  | awaiting (o : ValueOption)
  | option (o : ValueOption) (value : String)
  | values (texts : List String)
  deriving DecidableEq, Repr

/-- How far the arguments of a level have been read. -/
structure Progress where
  given : Given := {}
  pending : Option Pending := none
  /-- The options have ended. -/
  trailing : Bool := false
  deriving DecidableEq, Repr

/-! ## Checking -/

/-- The number that a value writes. -/
def readNumber (text : String) : Except UsageError Int64 :=
  (Text.readInt64 text.toList).mapError fun _ => .invalidNumber

namespace Given

/-- Accepts the value of an option, which must not have one yet. -/
def accept (g : Given) (o : ValueOption) (value : String) : Except UsageError Given :=
  match o with
  | .config =>
    if g.config.isSome then .error .repeated
    else if value = "" then .error .invalidValue
    else .ok { g with config := some value }
  | .initial =>
    if g.initial.isSome then .error .repeated
    else (readNumber value).map fun n => { g with initial := some n }
  | .variant =>
    if g.variant.isSome then .error .repeated
    else
      match Variant.ofName? value with
      | some v => .ok { g with variant := some v }
      | none => .error .invalidValue

/-- Accepts an option without a value. Help and version end everything. -/
def acceptSwitch (g : Given) : Switch → Except UsageError Given
  | .json => if g.json then .error .repeated else .ok { g with json := true }
  | .force => if g.force then .error .repeated else .ok { g with force := true }
  | .help => .error .helpWanted
  | .version => .error .versionWanted

/-- Accepts values of a command. -/
def acceptValues (g : Given) (level : Level) (texts : List String) : Except UsageError Given :=
  if level.takesNumbers then
    (texts.mapM readNumber).map fun ns => { g with numbers := g.numbers ++ ns }
  else .ok { g with operations := g.operations ++ texts }

end Given

namespace Progress

/-- Checks what is pending. -/
def settle (p : Progress) (level : Level) : Except UsageError Progress :=
  match p.pending with
  | none => .ok p
  | some (.awaiting _) => .error .invalidValue
  | some (.option o value) => do
    let g ← p.given.accept o value
    return { p with given := g, pending := none }
  | some (.values texts) => do
    let g ← p.given.acceptValues level texts
    return { p with given := g, pending := none }

/-! ## Arguments -/

/-- Takes an option with or without an attached value. -/
def takeOption (p : Progress) (level : Level) (o : ValueOption) (attached : Option String) :
    Except UsageError Progress := do
  let p ← p.settle level
  match attached with
  | none => return { p with pending := some (.awaiting o) }
  | some value => return { p with given := ← p.given.accept o value }

/-- Takes a switch. -/
def takeSwitch (p : Progress) (level : Level) (s : Switch) : Except UsageError Progress := do
  let p ← p.settle level
  return { p with given := ← p.given.acceptSwitch s }

/-- Takes an option by its long name, behind two hyphens; an equals sign attaches a value. -/
def takeLong (p : Progress) (level : Level) (cs : List Char) : Except UsageError Progress :=
  let (name, attached) := match Text.cut '=' cs with
    | some (name, value) => (name, some (String.ofList value))
    | none => (cs, none)
  match level.longOptions.lookup (String.ofList name), attached with
  | none, _ => .error .unknownArgument
  | some (.switch _), some _ => .error .unwantedValue
  | some (.switch s), none => p.takeSwitch level s
  | some (.value o), attached => p.takeOption level o attached

/-- Takes letters behind one hyphen. What follows an option with a value is the value, behind an
equals sign or not. -/
def takeLetters (p : Progress) (level : Level) : List Char → Except UsageError Progress
  | [] => .ok p
  | c :: rest =>
    match level.shortOptions.lookup c with
    | none => .error .unknownArgument
    | some (.switch s) => do
      let p ← p.takeSwitch level s
      p.takeLetters level rest
    | some (.value o) =>
      p.takeOption level o <|
        match rest with
        | [] => none
        | '=' :: value => some (String.ofList value)
        | value => some (String.ofList value)

/-- An option waits for its value. -/
def isAwaiting (p : Progress) : Bool :=
  match p.pending with
  | some (.awaiting _) => true
  | _ => false

/-- Takes a value of a command. -/
def takeValue (p : Progress) (level : Level) (arg : String) : Except UsageError Progress :=
  if level.takesValues then
    match p.pending with
    | some (.values texts) => .ok { p with pending := some (.values (texts ++ [arg])) }
    | _ => do
      let p ← p.settle level
      return { p with pending := some (.values [arg]) }
  else
    match level with
    | .program =>
      if (arg = "help" ∨ (CommandName.ofText? arg).isSome) ∧ p.trailing then
        .error .unknownArgument
      else .error .unknownCommand
    | .command _ => .error .unknownArgument

/-- Takes an argument that is no option: a value for an option that waits, or one of the command. -/
def takeWord (p : Progress) (level : Level) (arg : String) : Except UsageError Progress :=
  match p.pending, p.trailing with
  | some (.awaiting o), false => .ok { p with pending := some (.option o arg) }
  | _, _ => p.takeValue level arg

/-- Characters of a number behind its sign: digits, one point behind a digit, and one exponent mark
between digits. `seen` tells whether any character, a point or a mark was seen. -/
def numberChars (first point mark : Bool) : List Char → Bool
  | [] => true
  | c :: rest =>
    if (Text.digit? c).isSome then numberChars false point mark rest
    else if c = '.' then !first && !point && !mark && numberChars false true mark rest
    else if c = 'e' ∨ c = 'E' then
      !first && !mark && !rest.isEmpty && numberChars false point true rest
    else false

/-- A number may stand here, so that a hyphen can be its sign. -/
def admitsNegative (p : Progress) (level : Level) : Bool :=
  level.takesNumbers || p.pending = some (.awaiting .initial)

/-- Takes an argument. -/
def take (p : Progress) (level : Level) (arg : String) : Except UsageError Progress :=
  if p.trailing then p.takeWord level arg
  else
    match arg.toList with
    | ['-', '-'] => .ok { p with trailing := true }
    | '-' :: '-' :: cs => p.takeLong level cs
    | '-' :: c :: cs =>
      if p.admitsNegative level && numberChars true false false (c :: cs) then p.takeWord level arg
      else p.takeLetters level (c :: cs)
    | _ => p.takeWord level arg

end Progress

/-! ## Commands -/

namespace Given

/-- The command that the arguments behind its name make. -/
def toCommand (g : Given) : CommandName → Except UsageError Command
  | .demo => .ok .demo
  | .selfCheck => .ok .selfCheck
  | .sum => .ok (.sum g.numbers g.initial)
  | .product => .ok (.product g.numbers g.initial)
  | .run =>
    if g.operations.isEmpty then .error .missingValues
    else .ok (.run (g.variant.getD .basic) g.initial g.operations)
  | .outline => .ok .outline
  | .init => .ok (.init g.force)
  | .config => .ok .config

end Given

/-- Reads the arguments of a command. -/
def parseCommand (name : CommandName) (args : List String) :
    Except UsageError (Given × Command) := do
  let p ← args.foldlM (fun p arg => Progress.take p (.command name) arg) {}
  let p ← p.settle (.command name)
  let command ← p.given.toCommand name
  return (p.given, command)

/-- The error of asking for help by name: about a command, or about help itself. -/
def helpOn : List String → UsageError
  | [] => .helpWanted
  | [name] =>
    if name = "help" ∨ (CommandName.ofText? name).isSome then .helpWanted else .unknownCommand
  | _ => .unknownCommand

/-- Reads the arguments of the program up to the name of a command, and then those of the command,
whose errors come first. -/
def parseProgram (p : Progress) : List String → Except UsageError CommandLine
  | [] => do
    let p ← p.settle .program
    if p.given.config.isSome ∨ p.given.json then .error .missingCommand
    else .error .nothingGiven
  | arg :: rest =>
    let name := if p.trailing || p.isAwaiting then none else CommandName.ofText? arg
    match name with
    | some name => do
      let (own, command) ← parseCommand name rest
      let p ← p.settle .program
      return {
        config := own.config.or p.given.config
        json := own.json || p.given.json
        command := command }
    | none =>
      if arg = "help" ∧ !p.trailing ∧ !p.isAwaiting then .error (helpOn rest)
      else do
        let p ← p.take .program arg
        parseProgram p rest

/-- Reads the arguments behind the name of the program. -/
def parse (args : List String) : Except UsageError CommandLine := parseProgram {} args

end Abacus.CommandLine
