import Abacus.Settings.Layer
import Abacus.Toml.Statement

/-!
# Settings from the environment

A variable whose name starts with `CALC_`, in small or capital letters, holds a setting. The rest
of its name is the path of the setting, with two underscores, or a point, between the levels. A
name with an empty level is left aside.

A value is a list in brackets, a table in braces, a quoted text, a character, a truth value, a
number or, failing all that, a plain text. A value that none of the forms uses up to its end is
taken as it stands.
-/

namespace Abacus.Settings.Environment

open Abacus.Text

/-- What the names of the variables start with. -/
def namePrefix : String := "CALC_"

/-! ## Names -/

/-- Two underscores in a row become a point. -/
def pointed : List Char → List Char
  | '_' :: '_' :: cs => '.' :: pointed cs
  | c :: cs => c :: pointed cs
  | [] => []

/-- The name behind the prefix. -/
def behindPrefix? (cs : List Char) : Option (List Char) :=
  let (start, rest) := cs.splitAt namePrefix.length
  if lowerAscii start = lowerAscii namePrefix.toList then some rest else none

/-- The path of the setting that a variable holds, if it holds one. -/
def path? (name : String) : Option (List String) := do
  let rest ← behindPrefix? (trim name.toList)
  let levels := pieces '.' (trim (pointed rest))
  if levels.any (·.isEmpty) then none
  else some (levels.map fun level => String.ofList (lowerAscii level))

/-! ## Values -/

/-- A blank around a value. -/
def isSpace (c : Char) : Bool :=
  c = ' ' || c = '\t' || c = '\n' || c = '\x0c' || c = '\r'

/-- The text after its leading blanks. -/
def skipSpace (cs : List Char) : List Char := cs.dropWhile isSpace

/-- A character that ends a value without quotes. -/
def isSeparator (c : Char) : Bool :=
  c = '\x7b' || c = '\x7d' || c = '[' || c = ']' || c = ','

/-- Decimal digits and the text behind them. -/
def digits (cs : List Char) : List Char × List Char :=
  (cs.takeWhile Toml.isDecimal, cs.dropWhile Toml.isDecimal)

/-- A number with a point, digits on at least one side of it, and perhaps an exponent. -/
def float? (cs : List Char) : Option Float := do
  let (negative, cs) := Toml.sign cs
  let (whole, cs) := digits cs
  match cs with
  | '.' :: cs =>
    let (fraction, cs) := digits cs
    if whole.isEmpty && fraction.isEmpty then none
    else
      match cs with
      | [] => some (Toml.floatOf negative whole fraction none)
      | e :: cs =>
        if e ≠ 'e' ∧ e ≠ 'E' then none
        else
          let (below, cs) := Toml.sign cs
          match digits cs with
          | ([], _) | (_, _ :: _) => none
          | (ds, []) => some (Toml.floatOf negative whole fraction (some (below, ds)))
  | _ => none

/-- An integer without a minus sign that fits into 64 bits. -/
def unsigned? (cs : List Char) : Option Nat :=
  match cs with
  | '-' :: _ => none
  | cs => (readInteger 0 0xFFFFFFFFFFFFFFFF cs).toOption.map Int.toNat

/-- What a text without quotes stands for. -/
def bare (cs : List Char) : Leaf :=
  match float? cs with
  | some x => .float x
  | none =>
    match unsigned? cs with
    | some n => .unsigned n
    | none =>
      match readInt64 cs with
      | .ok n => .signed n.toInt
      | .error _ => .text (String.ofList cs)

/-- Reads a value without parts and gives the text behind it. -/
def leaf? (cs : List Char) : Option (Leaf × List Char) :=
  match cs with
  | 't' :: 'r' :: 'u' :: 'e' :: rest => some (.bool true, rest)
  | 'f' :: 'a' :: 'l' :: 's' :: 'e' :: rest => some (.bool false, rest)
  | '"' :: rest => (Toml.basicBody rest).map fun (s, rest) => (.text (String.ofList s), rest)
  | '\'' :: c :: '\'' :: rest => some (.character c, rest)
  | '\'' :: _ => none
  | cs =>
    some (bare (trim (cs.takeWhile (!isSeparator ·))), cs.dropWhile (!isSeparator ·))

/-- Reads a key, bare or quoted. -/
def key? (cs : List Char) : Option (String × List Char) :=
  match cs with
  | '"' :: rest => (Toml.basicBody rest).map fun (s, rest) => (String.ofList s, rest)
  | cs =>
    match cs.takeWhile Toml.isBareKeyChar with
    | [] => none
    | name => some (String.ofList name, cs.dropWhile Toml.isBareKeyChar)

mutual

/-- Reads a value with the blanks around it and gives the text behind it. -/
def value? : Nat → List Char → Option (Layer × List Char)
  | 0, _ => none
  | fuel + 1, cs =>
    let read : Option (Layer × List Char) :=
      match skipSpace cs with
      | '[' :: rest =>
        (items? fuel rest).map fun (vs, rest) => (.list .environment vs, rest)
      | '\x7b' :: rest =>
        (entries? fuel rest).map fun (es, rest) =>
          (.table .environment (Entries.ofList es), rest)
      | cs => (leaf? cs).map fun (v, rest) => (.leaf .environment v, rest)
    read.map fun (v, rest) => (v, skipSpace rest)

/-- Reads the items of a list and its closing bracket. A comma may follow the last item. -/
def items? : Nat → List Char → Option (List Layer × List Char)
  | 0, _ => none
  | fuel + 1, cs =>
    match cs with
    | ']' :: rest => some ([], rest)
    | cs =>
      match value? fuel cs with
      | some (v, ',' :: rest) => (items? fuel rest).map fun (vs, rest) => (v :: vs, rest)
      | some (v, ']' :: rest) => some ([v], rest)
      | _ => none

/-- Reads the entries of a table and its closing brace. A comma may follow the last entry. -/
def entries? : Nat → List Char → Option (List (String × Layer) × List Char)
  | 0, _ => none
  | fuel + 1, cs =>
    match cs with
    | '\x7d' :: rest => some ([], rest)
    | cs =>
      match key? (skipSpace cs) with
      | none => none
      | some (k, rest) =>
        match skipSpace rest with
        | '=' :: rest =>
          match value? fuel rest with
          | some (v, ',' :: rest) => (entries? fuel rest).map fun (es, rest) => ((k, v) :: es, rest)
          | some (v, '\x7d' :: rest) => some ([(k, v)], rest)
          | _ => none
        | _ => none

end

/-- The value of a variable. -/
def value (text : String) : Layer :=
  let cs := trim text.toList
  match value? (2 * cs.length + 2) cs with
  | some (v, []) => v
  | _ => .leaf .environment (.text (String.ofList cs))

/-! ## The layer -/

/-- A value under a path. -/
def nested (path : List String) (v : Layer) : Layer :=
  path.foldr (fun key v => .table .environment [(key, v)]) v

/-- Lays one variable over what the ones before it hold. -/
def add (below : Layer) (name text : String) : Layer :=
  match path? name with
  | none => below
  | some path => Layer.merge below (nested path (value text))

/-- The layer of all variables, each laid over the ones before it. -/
def layer (environment : List (String × String)) : Layer :=
  environment.foldl (fun below (name, text) => add below name text) (.table .environment [])

end Abacus.Settings.Environment
