import Abacus.Log.Event
import Abacus.Text.Alphanumeric
import Abacus.Text.Blank
import Abacus.Text.Integer

/-!
# The log filter

Directives, separated by commas, say which events are shown: up to which level, and for which
targets. For an event the most specific directive that speaks of it decides, and of equally specific
ones the last. A directive that cannot be read is left out and reported; without any directive only
errors are shown.
-/

namespace Abacus.Log

/-- The last level that is shown, or nothing if none is. -/
abbrev Limit := Option Level

namespace Limit

/-- Whether the limit lets a level through. -/
def admits (limit : Limit) (level : Level) : Bool :=
  match limit with
  | none => false
  | some last => level.rank ≤ last.rank

/-- The limits by their numbers. -/
def numbered : List Limit := [none, some .error, some .warn, some .info, some .debug, some .trace]

/-- Reads a limit: the name of a level, `off`, or a number. -/
def read? (cs : List Char) : Option Limit :=
  match cs, Text.readInteger 0 5 cs with
  | '-' :: _, _ => none
  | _, .ok n => numbered[n.toNat]?
  | _, .error _ =>
    match String.ofList (Text.lowerAscii cs) with
    | "off" => some none
    | "error" => some (some .error)
    | "warn" => some (some .warn)
    | "info" => some (some .info)
    | "debug" => some (some .debug)
    | "trace" => some (some .trace)
    | _ => none

end Limit

/-! ## Directives -/

/-- A directive: a target, then in brackets what it wants of the surroundings or of the event, then
a limit. -/
structure Directive where
  target : Option String := none
  /-- The name of a span in which an event would have to happen. -/
  span : Option String := none
  /-- A field, and the value that it would have to have. -/
  field : Option (String × Option String) := none
  limit : Limit := some .trace
  deriving DecidableEq, Repr

/-- Why a directive cannot be read. -/
inductive DirectiveError where
  | malformed
  | badLevel
  deriving DecidableEq, Repr

namespace DirectiveError

def message : DirectiveError → String
  | malformed => "invalid filter directive"
  | badLevel =>
    "error parsing level filter: expected one of \"off\", \"error\", \"warn\", \"info\", " ++
      "\"debug\", \"trace\", or a number 0-5"

end DirectiveError

namespace Directive

/-! ### Reading

A directive is recognised without the blanks around it, but its parts are cut from the whole text at
the same distances from the start. So the text is read as pairs: a character that is recognised,
and the character that stands in its place. -/

/-- The characters recognised, each with the character of the text in its place. -/
abbrev Cells := List (Char × Char)

/-- The part of the text before the first of the marks, and the cells from there on. -/
def upTo (marks : List Char) (cells : Cells) : List Char × Cells :=
  ((cells.takeWhile fun (c, _) => !marks.contains c).map (·.2),
    cells.dropWhile fun (c, _) => !marks.contains c)

/-- The text of the remaining cells and what follows them. -/
def remaining (cells : Cells) (tail : List Char) : List Char := cells.map (·.2) ++ tail

/-- Reads the limit behind the equals sign; all levels are shown if there is none. -/
def readLimit (d : Directive) (text : List Char) : Except DirectiveError Directive :=
  match text with
  | [] => .ok d
  | text =>
    match Limit.read? text with
    | some limit => .ok { d with limit := limit }
    | none => .error .badLevel

/-- Reads what follows the brackets: nothing, or a limit. -/
def readEnd (d : Directive) (cells : Cells) (tail : List Char) : Except DirectiveError Directive :=
  match cells with
  | [] => .ok d
  | ('=', _) :: cells => readLimit d (remaining cells tail)
  | _ => .error .malformed

/-- A field with its value. -/
def fieldOf (text : List Char) : String × Option String :=
  match Text.pieces '=' text with
  | name :: value :: _ => (String.ofList name, some (String.ofList value))
  | _ => (String.ofList text, none)

/-- Reads a field up to the closing brace and the bracket behind it. -/
def readField (d : Directive) (cells : Cells) (tail : List Char) :
    Except DirectiveError Directive :=
  match upTo ['\x7d'] cells with
  | ([], _) => .error .malformed
  | (text, _ :: (']', _) :: cells) => readEnd { d with field := some (fieldOf text) } cells tail
  | _ => .error .malformed

/-- Reads what stands in brackets behind the opening one. -/
def readSpan (d : Directive) (cells : Cells) (tail : List Char) : Except DirectiveError Directive :=
  match upTo [']', '\x7b'] cells with
  | (name, (']', _) :: cells) => readEnd { d with span := some (String.ofList name) } cells tail
  | (name, ('\x7b', _) :: cells) =>
    let span := match name with
      | [] => none
      | name => some (String.ofList name)
    readField { d with span := span } cells tail
  | _ => .error .malformed

/-- A character that a target or a level can start with. -/
def isStart (c : Char) : Bool := c = '-' || c = ':' || c = '_' || Text.isAlphanumeric c

/-- Reads a directive. What is neither followed by a limit nor a limit itself is a target. -/
def read (cs : List Char) : Except DirectiveError Directive :=
  let recognised := Text.trim cs
  let cells := recognised.zip cs
  let tail := cs.drop recognised.length
  match cells with
  | [] => .error .malformed
  | ('[', _) :: cells => readSpan {} cells tail
  | (c, _) :: _ =>
    if !isStart c then .error .malformed
    else
      match upTo ['=', '['] cells with
      | (name, ('=', _) :: cells) =>
        readLimit { target := some (String.ofList name) } (remaining cells tail)
      | (name, _ :: cells) => readSpan { target := some (String.ofList name) } cells tail
      | (_, []) =>
        match Limit.read? cs with
        | some limit => .ok { limit := limit }
        | none => .ok { target := some (String.ofList cs) }

/-! ### Meaning -/

/-- The only field of an event. -/
def eventField : String := "message"

/-- A directive speaks of an event if the event's target starts with its own and the event has its
field. Events happen outside of spans and no value is asked of them. -/
def covers (d : Directive) (e : Event) : Bool :=
  d.span.isNone &&
    (match d.target with
      | none => true
      | some target => target.toList.isPrefixOf e.target.toList) &&
    (match d.field with
      | none => true
      | some (name, none) => name = eventField
      | some (_, some _) => false)

/-- How specific a directive is: first by its target, then by its field. -/
def weight (d : Directive) : Nat :=
  2 * (match d.target with
    | none => 0
    | some target => target.utf8ByteSize + 1) + (if d.field.isSome then 1 else 0)

end Directive

/-! ## Filters -/

/-- The directives of a filter in their order. -/
structure Filter where
  directives : List Directive
  deriving DecidableEq, Repr

namespace Filter

/-- The filter without any directive shows errors. -/
def ofDirectives : List Directive → Filter
  | [] => ⟨[{ limit := some .error }]⟩
  | ds => ⟨ds⟩

/-- The heavier of two directives; if they weigh the same, the later one. -/
def heavier (best : Option Directive) (d : Directive) : Option Directive :=
  match best with
  | none => some d
  | some b => if b.weight ≤ d.weight then some d else some b

/-- The directive that decides on an event. -/
def decisive? (f : Filter) (e : Event) : Option Directive :=
  (f.directives.filter (·.covers e)).foldl heavier none

/-- An event is shown. -/
def admits (f : Filter) (e : Event) : Bool :=
  match f.decisive? e with
  | some d => d.limit.admits e.level
  | none => false

/-- The pieces of a text of directives, each with what it is read as. -/
def readAll (text : String) : List (String × Except DirectiveError Directive) :=
  ((Text.pieces ',' text.toList).filter fun piece => !piece.isEmpty).map fun piece =>
    (String.ofList piece, Directive.read piece)

/-- The filter of a text of directives. -/
def ofText (text : String) : Filter :=
  ofDirectives ((readAll text).filterMap fun (_, d) => d.toOption)

/-- What is said about the directives that cannot be read. -/
def complaints (text : String) : List String :=
  (readAll text).filterMap fun (piece, d) =>
    match d with
    | .ok _ => none
    | .error e => some ("ignoring `" ++ piece ++ "`: " ++ e.message)

end Filter

end Abacus.Log
