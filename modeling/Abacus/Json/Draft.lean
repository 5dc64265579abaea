import Abacus.Json.Number
import Abacus.Json.Value

/-!
# Drafts: what a text holds as far as it is JSON

Reading a text never fails. What is read is a draft: a value in which any part may be missing. An
array or object remembers whether it was closed, and a place where no value can be read is
`broken`.

The typed readers in `Abacus.Json.Record` walk over a draft from left to right. So the first fault
of a text decides, be it a value of the wrong type or the end of what is JSON.

Two kinds of value are read but cannot be used: a number beyond the greatest double and a text with
half a surrogate pair. Where nothing looks at them they do no harm.
-/

namespace Abacus.Json

open Abacus.Text

/-- A value as far as it could be read. -/
inductive Draft where
  | broken
  | null
  | bool (b : Bool)
  | int (n : Int)
  | float (x : Float)
  /-- A number beyond the greatest double. -/
  | unbounded
  | str (s : String)
  /-- A text with half a surrogate pair. -/
  | unpaired
  | arr (items : List Draft) (closed : Bool)
  /-- Keys are drafts as well: what stands in place of a key need not be a text. -/
  | obj (fields : List (Draft × Draft)) (closed : Bool)

namespace Draft

instance : Inhabited Draft := ⟨.broken⟩

def ofNumber : Number → Draft
  | .int n => .int n
  | .float x => .float x
  | .unbounded => .unbounded

mutual

/-- The value is complete, whatever it is worth. -/
def intact : Draft → Bool
  | .broken => false
  | .arr items closed => closed && intactItems items
  | .obj fields closed => closed && intactFields fields
  | _ => true

def intactItems : List Draft → Bool
  | [] => true
  | d :: ds => intact d && intactItems ds

def intactFields : List (Draft × Draft) → Bool
  | [] => true
  | (k, d) :: ds => intactKey k && intact d && intactFields ds

def intactKey : Draft → Bool
  | .str _ | .unpaired => true
  | _ => false

end

mutual

/-- The value, if it is complete and usable and has at most `depth` arrays and objects open at
once. -/
def value? (depth : Nat) : Draft → Option Value
  | .broken | .unbounded | .unpaired => none
  | .null => some .null
  | .bool b => some (.bool b)
  | .int n => some (.int n)
  | .float x => some (.float x)
  | .str s => some (.str s)
  | .arr items closed =>
    match depth with
    | 0 => none
    | depth + 1 => if closed then (values? depth items).map .arr else none
  | .obj fields closed =>
    match depth with
    | 0 => none
    | depth + 1 => if closed then (fields? depth fields).map .object else none

def values? (depth : Nat) : List Draft → Option (List Value)
  | [] => some []
  | d :: ds => do
    let v ← value? depth d
    let vs ← values? depth ds
    return v :: vs

def fields? (depth : Nat) : List (Draft × Draft) → Option (List (String × Value))
  | [] => some []
  | (k, d) :: ds => do
    let key ← key? k
    let v ← value? depth d
    let vs ← fields? depth ds
    return (key, v) :: vs

def key? : Draft → Option String
  | .str s => some s
  | _ => none

end

end Draft

/-! ## Texts -/

/-- The half of a surrogate pair that comes first. -/
def isHighSurrogate (n : Nat) : Bool := 0xD800 ≤ n && n ≤ 0xDBFF

/-- The half of a surrogate pair that comes second. -/
def isLowSurrogate (n : Nat) : Bool := 0xDC00 ≤ n && n ≤ 0xDFFF

/-- The character of a surrogate pair. -/
def ofSurrogates (high low : Nat) : Char :=
  Char.ofNat (0x10000 + (high - 0xD800) * 0x400 + (low - 0xDC00))

/-- The character of a one-letter escape. -/
def escaped? (c : Char) : Option Char :=
  match c with
  | '"' => some '"'
  | '\\' => some '\\'
  | '/' => some '/'
  | 'b' => some '\x08'
  | 'f' => some '\x0c'
  | 'n' => some '\n'
  | 'r' => some '\r'
  | 't' => some '\t'
  | _ => none

/-- The number written by four digits of base sixteen. -/
def fourHex? (a b c d : Char) : Option Nat := do
  return (((← hexValue? a) * 16 + (← hexValue? b)) * 16 + (← hexValue? c)) * 16 + (← hexValue? d)

/-- The characters of a text up to its closing quote, absent if half a surrogate pair is among them,
and what follows the quote. -/
abbrev TextResult := Option (Option (List Char) × List Char)

/-- Puts characters in front of a text; `none` stands for half a surrogate pair. -/
def TextResult.after (cs : Option (List Char)) (r : TextResult) : TextResult :=
  r.map fun (text, rest) => (cs.bind fun cs => text.map (cs ++ ·), rest)

/-- What a first half that waits for the second is worth if something else follows. -/
def waiting : Option Nat → Option (List Char)
  | none => some []
  | some _ => none

/-- Reads the text behind its opening quote. `high` is the first half of a surrogate pair just read,
which waits for the second. -/
def textBody (high : Option Nat) : List Char → TextResult
  | [] => none
  | '"' :: rest => some (waiting high, rest)
  | '\\' :: 'u' :: a :: b :: c :: d :: rest =>
    match fourHex? a b c d with
    | none => none
    | some n =>
      if isHighSurrogate n then (textBody (some n) rest).after (waiting high)
      else if isLowSurrogate n then
        (textBody none rest).after (high.map fun h => [ofSurrogates h n])
      else (textBody none rest).after ((waiting high).map (· ++ [Char.ofNat n]))
  | '\\' :: e :: rest =>
    match escaped? e with
    | none => none
    | some c => (textBody none rest).after ((waiting high).map (· ++ [c]))
  | c :: rest =>
    if c.toNat < 0x20 ∨ c = '\\' then none
    else (textBody none rest).after ((waiting high).map (· ++ [c]))

/-! ## Values -/

/-- A character that may stand between the tokens. -/
def isSpace (c : Char) : Bool := c = ' ' || c = '\n' || c = '\t' || c = '\r'

/-- The text after its leading blanks. -/
def skipSpace (cs : List Char) : List Char := cs.dropWhile isSpace

namespace Draft

/-- A draft and what follows it; nothing follows a draft that is not complete. -/
abbrev Reading := Draft × Option (List Char)

/-- Reads a text behind its opening quote. -/
def readText (cs : List Char) : Reading :=
  match textBody none cs with
  | none => (.broken, none)
  | some (some text, rest) => (.str (String.ofList text), some rest)
  | some (none, rest) => (.unpaired, some rest)

/-- Reads a number. -/
def readNumber (cs : List Char) : Reading :=
  match literal cs with
  | none => (.broken, none)
  | some (l, rest) => (.ofNumber l.number, some rest)

mutual

/-- Reads a value; `fuel` bounds the number of calls. -/
def readValue : Nat → List Char → Reading
  | 0, _ => (.broken, none)
  | fuel + 1, cs =>
    match skipSpace cs with
    | 'n' :: 'u' :: 'l' :: 'l' :: rest => (.null, some rest)
    | 't' :: 'r' :: 'u' :: 'e' :: rest => (.bool true, some rest)
    | 'f' :: 'a' :: 'l' :: 's' :: 'e' :: rest => (.bool false, some rest)
    | '"' :: rest => readText rest
    | '[' :: rest =>
      match readItems fuel true rest with
      | (items, some rest) => (.arr items true, some rest)
      | (items, none) => (.arr items false, none)
    | '\x7b' :: rest =>
      match readFields fuel true rest with
      | (fields, some rest) => (.obj fields true, some rest)
      | (fields, none) => (.obj fields false, none)
    | cs => readNumber cs

/-- Reads the items of an array and its closing bracket. -/
def readItems : Nat → Bool → List Char → List Draft × Option (List Char)
  | 0, _, _ => ([], none)
  | fuel + 1, first, cs =>
    match skipSpace cs, first with
    | ']' :: rest, _ => ([], some rest)
    | ',' :: rest, false =>
      match skipSpace rest with
      | ']' :: _ => ([], none)
      | cs => readItem fuel cs
    | cs, true => readItem fuel cs
    | _, false => ([], none)

/-- Reads an item and those behind it. -/
def readItem : Nat → List Char → List Draft × Option (List Char)
  | 0, _ => ([], none)
  | fuel + 1, cs =>
    match readValue fuel cs with
    | (d, none) => ([d], none)
    | (d, some rest) =>
      let (ds, end?) := readItems fuel false rest
      (d :: ds, end?)

/-- Reads the fields of an object and its closing brace. -/
def readFields : Nat → Bool → List Char → List (Draft × Draft) × Option (List Char)
  | 0, _, _ => ([], none)
  | fuel + 1, first, cs =>
    match skipSpace cs, first with
    | '\x7d' :: rest, _ => ([], some rest)
    | ',' :: rest, false =>
      match skipSpace rest with
      | '\x7d' :: _ => ([], none)
      | cs => readField fuel cs
    | cs, true => readField fuel cs
    | _, false => ([], none)

/-- Reads a field and those behind it. Only a text can be a key: anything else ends the object. -/
def readField : Nat → List Char → List (Draft × Draft) × Option (List Char)
  | 0, _ => ([], none)
  | fuel + 1, cs =>
    match readValue fuel cs with
    | (key, none) => ([(key, .broken)], none)
    | (key, some rest) =>
      if key.intactKey then
        match skipSpace rest with
        | ':' :: rest =>
          match readValue fuel rest with
          | (d, none) => ([(key, d)], none)
          | (d, some rest) =>
            let (ds, end?) := readFields fuel false rest
            ((key, d) :: ds, end?)
        | _ => ([(key, .broken)], none)
      else ([(key, .broken)], none)

end

/-- Calls that suffice for a text: at most three for each of its characters. -/
def enough (cs : List Char) : Nat := 3 * cs.length + 3

end Draft

/-- A whole text: a draft, and whether the text ends behind it. -/
structure Document where
  draft : Draft
  ended : Bool

namespace Document

/-- Reads a text to its end. -/
def read (s : String) : Document :=
  let cs := s.toList
  match Draft.readValue (Draft.enough cs) cs with
  | (d, none) => ⟨d, false⟩
  | (d, some rest) => ⟨d, skipSpace rest = []⟩

end Document

namespace Value

/-- The greatest number of arrays and objects that may be open at once. -/
def depthLimit : Nat := 127

/-- Reads a value; the whole text must be JSON. -/
def parse? (s : String) : Option Value :=
  let doc := Document.read s
  if doc.ended then doc.draft.value? depthLimit else none

end Value

end Abacus.Json
