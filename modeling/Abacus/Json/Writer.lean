import Abacus.Decimal.Layout
import Abacus.Json.Value
import Abacus.Text.Integer

/-!
# Writing JSON

The compact text has no blanks at all. The pretty text puts every item and every field on a line of
its own, indented by two spaces per level, and writes empty arrays and objects as `[]` and `{}`.

In a text only the double quote, the backslash and the controls below the space are escaped.
-/

namespace Abacus.Json

open Abacus.Text

/-- The escape `\u` with four digits of base sixteen. -/
def unicodeEscape (n : Nat) : List Char :=
  ['\\', 'u', hexDigit (n / 4096), hexDigit (n / 256), hexDigit (n / 16), hexDigit n]

/-- A character inside double quotes. -/
def escapeChar (c : Char) : List Char :=
  match c with
  | '"' => ['\\', '"']
  | '\\' => ['\\', '\\']
  | '\x08' => ['\\', 'b']
  | '\x0c' => ['\\', 'f']
  | '\n' => ['\\', 'n']
  | '\r' => ['\\', 'r']
  | '\t' => ['\\', 't']
  | c => if c.toNat < 0x20 then unicodeEscape c.toNat else [c]

/-- A text between double quotes. -/
def stringText (s : String) : List Char := '"' :: s.toList.flatMap escapeChar ++ ['"']

/-- A number without fraction. -/
def intText (n : Int) : List Char := (renderInt n).toList

/-- A finite floating-point number; the others have no number form and become `null`. -/
def floatText (x : Float) : List Char :=
  if Decimal.isFinite x then Decimal.Layout.json.bitsText x.toBits.toNat else "null".toList

/-- The values without parts. -/
def scalarText : Value → List Char
  | .null => "null".toList
  | .bool true => "true".toList
  | .bool false => "false".toList
  | .int n => intText n
  | .float x => floatText x
  | .str s => stringText s
  | .arr _ => []
  | .obj _ => []

mutual

/-- The text without blanks. -/
def compactText : Value → List Char
  | .arr items => '[' :: compactItems items ++ [']']
  | .obj fields => '\x7b' :: compactFields fields ++ ['\x7d']
  | v => scalarText v

def compactItems : List Value → List Char
  | [] => []
  | [v] => compactText v
  | v :: vs => compactText v ++ ',' :: compactItems vs

def compactFields : List (String × Value) → List Char
  | [] => []
  | [(k, v)] => stringText k ++ ':' :: compactText v
  | (k, v) :: rest => stringText k ++ ':' :: compactText v ++ ',' :: compactFields rest

end

/-- A line break and the indentation of a level. -/
def newline (level : Nat) : List Char := '\n' :: List.replicate (2 * level) ' '

mutual

/-- The text with one item or field per line, inside `level` open arrays and objects. -/
def prettyText (level : Nat) : Value → List Char
  | .arr [] => ['[', ']']
  | .obj [] => ['\x7b', '\x7d']
  | .arr (v :: vs) =>
    '[' :: newline (level + 1) ++ prettyText (level + 1) v ++ prettyItems (level + 1) vs ++
      newline level ++ [']']
  | .obj ((k, v) :: rest) =>
    '\x7b' :: newline (level + 1) ++ stringText k ++ ':' :: ' ' :: prettyText (level + 1) v ++
      prettyFields (level + 1) rest ++ newline level ++ ['\x7d']
  | v => scalarText v

def prettyItems (level : Nat) : List Value → List Char
  | [] => []
  | v :: vs => ',' :: newline level ++ prettyText level v ++ prettyItems level vs

def prettyFields (level : Nat) : List (String × Value) → List Char
  | [] => []
  | (k, v) :: rest =>
    ',' :: newline level ++ stringText k ++ ':' :: ' ' :: prettyText level v ++
      prettyFields level rest

end

namespace Value

/-- The text on one line, without blanks. -/
def compact (v : Value) : String := String.ofList (compactText v)

/-- The text over several lines. -/
def pretty (v : Value) : String := String.ofList (prettyText 0 v)

end Value

end Abacus.Json
