import Abacus.Text.Blank
import Abacus.Text.Integer

/-!
# Operations

An operation is one step of a script. As text it is a name, followed by a colon and an integer for
the four arithmetic operations: `add:5`, `sqrt`. Reading is generous (blanks around name and
operand, capital letters, longer spellings, a plus sign); writing always gives the same canonical
text, which reads back as the same operation.
-/

namespace Abacus

/-- The kinds of calculator a script can run on. -/
inductive Variant where
  | basic
  | scientific
  | advanced
  deriving DecidableEq, Repr, Inhabited

namespace Variant

def name : Variant → String
  | basic => "basic"
  | scientific => "scientific"
  | advanced => "advanced"

def all : List Variant := [basic, scientific, advanced]

/-- The variant of a name. -/
def ofName? (name : String) : Option Variant := all.find? (·.name = name)

end Variant

/-- What a calculator can be asked to do. -/
inductive Operation where
  | add (n : Int64)
  | subtract (n : Int64)
  | multiply (n : Int64)
  | divide (n : Int64)
  | value
  | reset
  | storeMemory
  | recallMemory
  | clearMemory
  | squareRoot
  | history
  deriving DecidableEq, Repr

/-- Why a script is rejected before it runs. -/
inductive ScriptError where
  | unknownOperation (text : String)
  | missingOperand (operation : String)
  | unexpectedOperand (operation : String)
  | invalidOperand (operation operand : String) (reason : Text.IntegerError)
  | unsupported (operation : String) (variant : Variant)
  deriving DecidableEq, Repr

namespace ScriptError

def message : ScriptError → String
  | unknownOperation text => "Unknown operation '" ++ text ++ "'"
  | missingOperand operation =>
    "Operation '" ++ operation ++ "' needs an integer operand, e.g. " ++ operation ++ ":5"
  | unexpectedOperand operation => "Operation '" ++ operation ++ "' takes no operand"
  | invalidOperand operation operand reason =>
    "Invalid operand '" ++ operand ++ "' for '" ++ operation ++ "': " ++ reason.message
  | unsupported operation variant =>
    "Operation '" ++ operation ++ "' is not supported by the " ++ variant.name ++ " calculator"

/-- The name of the cause. -/
def name : ScriptError → String
  | unknownOperation _ => "UnknownOperation"
  | missingOperand _ => "MissingOperand"
  | unexpectedOperand _ => "UnexpectedOperand"
  | invalidOperand .. => "InvalidOperand"
  | unsupported .. => "Unsupported"

end ScriptError

namespace Variant

/-- Memory and square root need the scientific calculator, the history needs the advanced one. -/
def supports (v : Variant) : Operation → Bool
  | .storeMemory | .recallMemory | .clearMemory | .squareRoot => v = scientific
  | .history => v = advanced
  | _ => true

end Variant

namespace Operation

/-! ## Writing -/

/-- The canonical name. -/
def name : Operation → String
  | add _ => "add"
  | subtract _ => "sub"
  | multiply _ => "mul"
  | divide _ => "div"
  | value => "value"
  | reset => "reset"
  | storeMemory => "store"
  | recallMemory => "recall"
  | clearMemory => "clear"
  | squareRoot => "sqrt"
  | history => "history"

/-- The operand of an operation that has one. -/
def operand? : Operation → Option Int64
  | add n | subtract n | multiply n | divide n => some n
  | _ => none

/-- The canonical text. -/
def render (op : Operation) : String :=
  match op.operand? with
  | some n => op.name ++ ":" ++ Text.renderInt64 n
  | none => op.name

/-- The operation in words. -/
def inspect : Operation → String
  | add n => "Add(" ++ Text.renderInt64 n ++ ")"
  | subtract n => "Subtract(" ++ Text.renderInt64 n ++ ")"
  | multiply n => "Multiply(" ++ Text.renderInt64 n ++ ")"
  | divide n => "Divide(" ++ Text.renderInt64 n ++ ")"
  | value => "Value"
  | reset => "Reset"
  | storeMemory => "StoreMemory"
  | recallMemory => "RecallMemory"
  | clearMemory => "ClearMemory"
  | squareRoot => "SquareRoot"
  | history => "History"

/-! ## Reading -/

/-- What a name calls for: an operand, or none. -/
inductive Form where
  | arithmetic (make : Int64 → Operation)
  | plain (op : Operation)

/-- The form of a name in small letters. -/
def form? (name : String) : Option Form :=
  match name with
  | "add" => some (.arithmetic add)
  | "sub" | "subtract" => some (.arithmetic subtract)
  | "mul" | "multiply" => some (.arithmetic multiply)
  | "div" | "divide" => some (.arithmetic divide)
  | "value" | "get" => some (.plain value)
  | "reset" => some (.plain reset)
  | "store" => some (.plain storeMemory)
  | "recall" => some (.plain recallMemory)
  | "clear" => some (.plain clearMemory)
  | "sqrt" => some (.plain squareRoot)
  | "history" => some (.plain history)
  | _ => none

/-- The name, in small letters, and the operand of an operation text, both without blanks around
them. The operand is what follows the first colon, if there is one. -/
def nameAndOperand (cs : List Char) : String × Option (List Char) :=
  let t := Text.trim cs
  match Text.cut ':' t with
  | some (name, operand) =>
    (String.ofList (Text.lowerAscii (Text.trim name)), some (Text.trim operand))
  | none => (String.ofList (Text.lowerAscii t), none)

/-- Reads an operation. An unknown name is reported with the whole text. -/
def parse (s : String) : Except ScriptError Operation :=
  let (name, operand) := nameAndOperand s.toList
  match form? name, operand with
  | none, _ => .error (.unknownOperation s)
  | some (.plain op), none => .ok op
  | some (.plain _), some _ => .error (.unexpectedOperand name)
  | some (.arithmetic _), none => .error (.missingOperand name)
  | some (.arithmetic make), some digits =>
    match Text.readInt64 digits with
    | .ok n => .ok (make n)
    | .error reason => .error (.invalidOperand name (String.ofList digits) reason)

end Operation

end Abacus
