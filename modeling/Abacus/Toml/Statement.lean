import Abacus.Text.Blank
import Abacus.Text.Integer
import Abacus.Toml.Value

/-!
# Reading TOML: statements

A document is a list of statements, one to a line: a header that opens a table, a header that opens
an element of an array of tables, or a key with its value. This module reads the statements as they
are written; whether they fit together is decided in `Abacus.Toml.Document`.

Every reader takes the text from where it stands and gives what it read and the text behind it, or
nothing if the text is not well formed.
-/

namespace Abacus.Toml

open Abacus.Text

/-- A value as it is written: an inline table is a list of keys, with their points, and values. -/
inductive Term where
  | string (s : String)
  | integer (n : Int64)
  | float (x : Float)
  | boolean (b : Bool)
  | datetime (text : String)
  | array (items : List Term)
  | inline (entries : List (List String × Term))

/-- What one statement of a document says: an entry, the start of a table, or the start of the next
table of an array. -/
inductive Statement where
  | entry (key : List String) (value : Term)
  | table (path : List String)
  | element (path : List String)

/-! ## Blanks and comments -/

/-- A space or a tab. -/
def isSpace (c : Char) : Bool := c = ' ' || c = '\t'

/-- The text after its leading blanks. -/
def skipSpace (cs : List Char) : List Char := cs.dropWhile isSpace

/-- A character of a comment: any but the controls, of which the tab is allowed. -/
def isCommentChar (c : Char) : Bool := c != '\n' && !isControl c

/-- A line break, with or without a carriage return. -/
def lineBreak? : List Char → Option (List Char)
  | '\n' :: cs => some cs
  | '\r' :: '\n' :: cs => some cs
  | _ => none

/-- The rest of a text that starts with a comment, from the end of its line on. -/
def skipComment : List Char → List Char
  | '#' :: cs => cs.dropWhile isCommentChar
  | cs => cs

/-- The end of a line: blanks, a comment, and a line break unless the text ends. -/
def lineEnd? (cs : List Char) : Option (List Char) :=
  match skipComment (skipSpace cs) with
  | [] => some []
  | cs => lineBreak? cs

/-- Skips blanks, line breaks and comments between the items of an array. A comment has to end with
a line break. -/
def skipLines? : Nat → List Char → Option (List Char)
  | 0, _ => none
  | fuel + 1, cs =>
    match skipSpace cs with
    | '#' :: cs => lineBreak? (cs.dropWhile isCommentChar) >>= skipLines? fuel
    | cs =>
      match lineBreak? cs with
      | some cs => skipLines? fuel cs
      | none => some cs

/-! ## Strings -/

/-- A string and the text behind it. -/
abbrev StringResult := Option (List Char × List Char)

def StringResult.after (cs : List Char) (r : StringResult) : StringResult :=
  r.map fun (s, rest) => (cs ++ s, rest)

/-- The character of a one-letter escape. -/
def escaped? (c : Char) : Option Char :=
  match c with
  | 'b' => some '\x08'
  | 't' => some '\t'
  | 'n' => some '\n'
  | 'f' => some '\x0c'
  | 'r' => some '\r'
  | '"' => some '"'
  | '\\' => some '\\'
  | _ => none

/-- The number written by digits of base sixteen. -/
def ofHex? (cs : List Char) : Option Nat :=
  cs.foldlM (fun n c => (hexValue? c).map (16 * n + ·)) 0

/-- The character of a code point. -/
def character? (n : Nat) : Option Char :=
  if n < 0xD800 ∨ (0xDFFF < n ∧ n < 0x110000) then some (Char.ofNat n) else none

/-- A character that a basic string holds as itself. -/
def isBasicChar (c : Char) : Bool := c != '"' && c != '\\' && c != '\n' && !isControl c

/-- A character that a literal string holds as itself. -/
def isLiteralChar (c : Char) : Bool := c != '\'' && c != '\n' && !isControl c

/-- Reads a basic string behind its opening quote. -/
def basicBody : List Char → StringResult
  | '"' :: rest => some ([], rest)
  | '\\' :: 'u' :: a :: b :: c :: d :: rest =>
    match ofHex? [a, b, c, d] >>= character? with
    | some ch => (basicBody rest).after [ch]
    | none => none
  | '\\' :: 'U' :: a :: b :: c :: d :: e :: f :: g :: h :: rest =>
    match ofHex? [a, b, c, d, e, f, g, h] >>= character? with
    | some ch => (basicBody rest).after [ch]
    | none => none
  | '\\' :: e :: rest =>
    match escaped? e with
    | some c => (basicBody rest).after [c]
    | none => none
  | c :: rest => if isBasicChar c then (basicBody rest).after [c] else none
  | [] => none

/-- Reads a literal string behind its opening quote. -/
def literalBody : List Char → StringResult
  | '\'' :: rest => some ([], rest)
  | c :: rest => if isLiteralChar c then (literalBody rest).after [c] else none
  | [] => none

/-- The text after its leading blanks and line breaks. A carriage return on its own is neither. -/
def skipBreaks : List Char → List Char
  | '\n' :: rest | '\r' :: '\n' :: rest => skipBreaks rest
  | c :: rest => if isSpace c then skipBreaks rest else c :: rest
  | [] => []

/-- What follows a backslash that joins lines: blanks, a line break, and all blanks and line breaks
behind it. -/
def lineJoin? (cs : List Char) : Option (List Char) := (lineBreak? (skipSpace cs)).map skipBreaks

/-- The number of marks at the start of a text, at most five, and what follows them. -/
def markRun (mark : Char) (cs : List Char) : Nat × List Char :=
  let n := (cs.take 5).takeWhile (· = mark) |>.length
  (n, cs.drop n)

/-- Reads a basic string behind its three opening quotes. Of up to five quotes in a row the last
three close it. -/
def blockBasicBody : Nat → List Char → StringResult
  | 0, _ => none
  | fuel + 1, cs =>
    match cs with
    | '"' :: _ =>
      let (n, rest) := markRun '"' cs
      if 3 ≤ n then some (List.replicate (n - 3) '"', rest)
      else (blockBasicBody fuel rest).after (List.replicate n '"')
    | '\\' :: 'u' :: a :: b :: c :: d :: rest =>
      match ofHex? [a, b, c, d] >>= character? with
      | some ch => (blockBasicBody fuel rest).after [ch]
      | none => none
    | '\\' :: 'U' :: a :: b :: c :: d :: e :: f :: g :: h :: rest =>
      match ofHex? [a, b, c, d, e, f, g, h] >>= character? with
      | some ch => (blockBasicBody fuel rest).after [ch]
      | none => none
    | '\\' :: rest =>
      match lineJoin? rest with
      | some rest => blockBasicBody fuel rest
      | none =>
        match rest with
        | e :: rest =>
          match escaped? e with
          | some c => (blockBasicBody fuel rest).after [c]
          | none => none
        | [] => none
    | '\r' :: '\n' :: rest | '\n' :: rest => (blockBasicBody fuel rest).after ['\n']
    | c :: rest => if isBasicChar c then (blockBasicBody fuel rest).after [c] else none
    | [] => none

/-- Reads a literal string behind its three opening quotes. -/
def blockLiteralBody : Nat → List Char → StringResult
  | 0, _ => none
  | fuel + 1, cs =>
    match cs with
    | '\'' :: _ =>
      let (n, rest) := markRun '\'' cs
      if 3 ≤ n then some (List.replicate (n - 3) '\'', rest)
      else (blockLiteralBody fuel rest).after (List.replicate n '\'')
    | '\r' :: '\n' :: rest | '\n' :: rest => (blockLiteralBody fuel rest).after ['\n']
    | c :: rest => if isLiteralChar c then (blockLiteralBody fuel rest).after [c] else none
    | [] => none

/-- The line break behind three opening quotes does not count. -/
def afterOpening (cs : List Char) : List Char := (lineBreak? cs).getD cs

/-- Reads a string of any of the four forms. -/
def string? (cs : List Char) : Option (String × List Char) :=
  let body : StringResult := match cs with
    | '"' :: '"' :: '"' :: rest => blockBasicBody (rest.length + 1) (afterOpening rest)
    | '"' :: rest => basicBody rest
    | '\'' :: '\'' :: '\'' :: rest => blockLiteralBody (rest.length + 1) (afterOpening rest)
    | '\'' :: rest => literalBody rest
    | _ => none
  body.map fun (s, rest) => (String.ofList s, rest)

/-! ## Keys -/

/-- A key between points: bare, or quoted on one line. -/
def simpleKey? : List Char → Option (String × List Char)
  | '"' :: rest => (basicBody rest).map fun (s, rest) => (String.ofList s, rest)
  | '\'' :: rest => (literalBody rest).map fun (s, rest) => (String.ofList s, rest)
  | cs =>
    match cs.takeWhile isBareKeyChar with
    | [] => none
    | name => some (String.ofList name, cs.dropWhile isBareKeyChar)

/-- The greatest number of parts of a key and of arrays and inline tables open at once. -/
def nestingLimit : Nat := 80

/-- Reads a key with its points and the blanks around them. -/
def key? : Nat → List Char → Option (List String × List Char)
  | 0, _ => none
  | fuel + 1, cs => do
    let (part, rest) ← simpleKey? (skipSpace cs)
    match skipSpace rest with
    | '.' :: rest =>
      let (parts, rest) ← key? fuel rest
      return (part :: parts, rest)
    | rest => return ([part], rest)

/-- Reads a key of fewer than `nestingLimit` parts. -/
def dottedKey? (cs : List Char) : Option (List String × List Char) := key? (nestingLimit - 1) cs

/-! ## Numbers -/

/-- Digits that satisfy `ok`, with single underscores between them; the underscores are left out.
There is nothing to read if an underscore does not stand between two digits. -/
def digitGroup? (ok : Char → Bool) : Bool → List Char → Option (List Char × List Char)
  | afterDigit, c :: cs =>
    if ok c then (digitGroup? ok true cs).map fun (ds, rest) => (c :: ds, rest)
    else if c = '_' ∧ afterDigit then
      match cs with
      | d :: cs =>
        if ok d then (digitGroup? ok true cs).map fun (ds, rest) => (d :: ds, rest) else none
      | [] => none
    else if afterDigit then some ([], c :: cs) else none
  | afterDigit, [] => if afterDigit then some ([], []) else none

def isDecimal (c : Char) : Bool := (digit? c).isSome

def isHex (c : Char) : Bool := (hexValue? c).isSome

def isOctal (c : Char) : Bool := '0' ≤ c && c ≤ '7'

def isBinary (c : Char) : Bool := c = '0' || c = '1'

/-- A sign and the text behind it; the sign is a minus if there is one. -/
def sign : List Char → Bool × List Char
  | '-' :: cs => (true, cs)
  | '+' :: cs => (false, cs)
  | cs => (false, cs)

/-- The digits of a decimal number: a lone zero, or a group that starts with another digit. -/
def wholeDigits? (cs : List Char) : Option (List Char × List Char) :=
  match cs with
  | '0' :: rest => some (['0'], rest)
  | cs => digitGroup? isDecimal false cs

/-- The number written in a base of at most sixteen. -/
def ofBase (base : Nat) (ds : List Char) : Nat :=
  ds.foldl (fun n c => base * n + (hexValue? c).getD 0) 0

/-- The integer, if it has 64 bits. -/
def fits? (n : Int) : Option Term :=
  if -0x8000000000000000 ≤ n ∧ n < 0x8000000000000000 then some (.integer (Int64.ofInt n)) else none

/-- Reads an integer in base sixteen, eight or two behind its mark. -/
def based? (base : Nat) (ok : Char → Bool) (cs : List Char) : Option (Term × List Char) := do
  let (ds, rest) ← digitGroup? ok false cs
  let n ← fits? (ofBase base ds)
  return (n, rest)

/-- Reads a decimal integer. -/
def decimal? (cs : List Char) : Option (Term × List Char) := do
  let (negative, digits) := sign cs
  let (ds, rest) ← wholeDigits? digits
  let magnitude : Int := ofBase 10 ds
  let n ← fits? (if negative then -magnitude else magnitude)
  return (n, rest)

def integer? : List Char → Option (Term × List Char)
  | '0' :: 'x' :: cs => based? 16 isHex cs
  | '0' :: 'o' :: cs => based? 8 isOctal cs
  | '0' :: 'b' :: cs => based? 2 isBinary cs
  | cs => decimal? cs

/-- Reads an exponent behind its letter: the sign, the digits, the text behind them. -/
def exponent? (cs : List Char) : Option (Bool × List Char × List Char) := do
  let (negative, digits) := sign cs
  let (ds, rest) ← digitGroup? isDecimal false digits
  return (negative, ds, rest)

/-- The exponent of a float, if the text goes on with one. -/
def exponentPart? : List Char → Option (Option (Bool × List Char) × List Char)
  | 'e' :: cs | 'E' :: cs => (exponent? cs).map fun (neg, ds, rest) => (some (neg, ds), rest)
  | cs => some (none, cs)

/-- The double nearest to the decimal number. -/
def floatOf (negative : Bool) (whole fraction : List Char) (exponent : Option (Bool × List Char)) :
    Float :=
  let e : Int := match exponent with
    | none => 0
    | some (true, ds) => -(ofBase 10 ds : Int)
    | some (false, ds) => ofBase 10 ds
  let significand := ofBase 10 (whole ++ fraction)
  let shift := e - fraction.length
  let x : Float :=
    if significand = 0 then 0
    else if shift < -400 - (whole ++ fraction).length then 0
    else if 400 < shift then 1.0 / 0.0
    else Float.ofScientific significand (shift < 0) shift.natAbs
  if negative then -x else x

/-- The words for infinity and for what is no number. -/
def specialFloat? (negative : Bool) : List Char → Option (Term × List Char)
  | 'i' :: 'n' :: 'f' :: rest =>
    let x : Float := 1.0 / 0.0
    some (.float (if negative then -x else x), rest)
  | 'n' :: 'a' :: 'n' :: rest => some (.float (0.0 / 0.0), rest)
  | _ => none

/-- What a text that starts like a number turns out to be: a float, an integer or a fault. A float
must not be too great. -/
def number? (cs : List Char) : Option (Term × List Char) :=
  let (negative, digits) := sign cs
  match specialFloat? negative digits with
  | some r => some r
  | none =>
    match wholeDigits? digits with
    | none => integer? cs
    | some (whole, rest) =>
      let parts : Option (List Char × Option (Bool × List Char) × List Char) :=
        match rest with
        | '.' :: cs => do
          let (fraction, rest) ← digitGroup? isDecimal false cs
          let (exponent, rest) ← exponentPart? rest
          return (fraction, exponent, rest)
        | cs => (exponentPart? cs).map fun (exponent, rest) => ([], exponent, rest)
      match parts with
      | none => none
      | some ([], none, _) => integer? cs
      | some (fraction, exponent, rest) =>
        let x := floatOf negative whole fraction exponent
        if x.isInf ∧ !negative then none else some (.float x, rest)

/-! ## Dates and times -/

/-- The number of two digits. -/
def twoDigits? (a b : Char) : Option Nat := do
  return 10 * (← digit? a) + (← digit? b)

/-- A leap year of the Gregorian calendar. -/
def isLeapYear (year : Nat) : Bool := year % 4 = 0 && (year % 100 != 0 || year % 400 = 0)

/-- How many days a month has. -/
def daysIn (year month : Nat) : Nat :=
  if month = 2 then if isLeapYear year then 29 else 28
  else if month = 4 ∨ month = 6 ∨ month = 9 ∨ month = 11 then 30
  else 31

/-- A date and the text behind it. -/
def date? : List Char → Option (List Char × List Char)
  | y1 :: y2 :: y3 :: y4 :: '-' :: m1 :: m2 :: '-' :: d1 :: d2 :: rest => do
    let year := 100 * (← twoDigits? y1 y2) + (← twoDigits? y3 y4)
    let month ← twoDigits? m1 m2
    let day ← twoDigits? d1 d2
    if 1 ≤ month ∧ month ≤ 12 ∧ 1 ≤ day ∧ day ≤ daysIn year month then
      some ([y1, y2, y3, y4, '-', m1, m2, '-', d1, d2], rest)
    else none
  | _ => none

/-- The fraction of a second in normal form: at most nine digits, without trailing zeros. -/
def normalFraction (ds : List Char) : List Char :=
  match ((ds.take 9).reverse.dropWhile (· = '0')).reverse with
  | [] => []
  | ds => '.' :: ds

/-- A time of day and the text behind it. -/
def time? : List Char → Option (List Char × List Char)
  | h1 :: h2 :: ':' :: m1 :: m2 :: ':' :: s1 :: s2 :: rest => do
    let hour ← twoDigits? h1 h2
    let minute ← twoDigits? m1 m2
    let second ← twoDigits? s1 s2
    if hour ≤ 23 ∧ minute ≤ 59 ∧ second ≤ 60 then
      let clock := [h1, h2, ':', m1, m2, ':', s1, s2]
      match rest with
      | '.' :: cs =>
        match cs.takeWhile isDecimal with
        | [] => none
        | ds => some (clock ++ normalFraction ds, cs.dropWhile isDecimal)
      | rest => some (clock, rest)
    else none
  | _ => none

/-- The distance from universal time and the text behind it. -/
def offset? : List Char → Option (List Char × List Char)
  | 'Z' :: rest | 'z' :: rest => some (['Z'], rest)
  | s :: h1 :: h2 :: ':' :: m1 :: m2 :: rest => do
    if s ≠ '+' ∧ s ≠ '-' then none
    else
      let hour ← twoDigits? h1 h2
      let minute ← twoDigits? m1 m2
      if hour ≤ 23 ∧ minute ≤ 59 then
        let s := if hour = 0 ∧ minute = 0 then '+' else s
        some ([s, h1, h2, ':', m1, m2], rest)
      else none
  | _ => none

/-- The text starts with a year and a hyphen, so it has to be a date. -/
def startsDate : List Char → Bool
  | a :: b :: c :: d :: '-' :: _ => isDecimal a && isDecimal b && isDecimal c && isDecimal d
  | _ => false

/-- The text starts with an hour and a colon, so it has to be a time. -/
def startsTime : List Char → Bool
  | a :: b :: ':' :: _ => isDecimal a && isDecimal b
  | _ => false

/-- A date, alone or with a time of day, which may have an offset. -/
def datetime? (cs : List Char) : Option (Term × List Char) := do
  let (date, rest) ← date? cs
  match rest with
  | t :: cs =>
    if (t = 'T' ∨ t = 't' ∨ t = ' ') ∧ startsTime cs then
      let (time, rest) ← time? cs
      match offset? rest with
      | some (offset, rest) =>
        return (.datetime (String.ofList (date ++ 'T' :: time ++ offset)), rest)
      | none => return (.datetime (String.ofList (date ++ 'T' :: time)), rest)
    else return (.datetime (String.ofList date), rest)
  | [] => return (.datetime (String.ofList date), [])

/-- A time of day alone. -/
def localTime? (cs : List Char) : Option (Term × List Char) :=
  (time? cs).map fun (time, rest) => (.datetime (String.ofList time), rest)

/-! ## Values -/

mutual

/-- Reads a value with fewer than `depth` arrays and inline tables open at once. -/
def value? : Nat → Nat → List Char → Option (Term × List Char)
  | 0, _, _ => none
  | fuel + 1, depth, cs =>
    match cs with
    | '"' :: _ | '\'' :: _ => (string? cs).map fun (s, rest) => (.string s, rest)
    | '[' :: rest =>
      match depth with
      | 0 => none
      | depth + 1 => (items? fuel depth true rest).map fun (items, rest) => (.array items, rest)
    | '\x7b' :: rest =>
      match depth with
      | 0 => none
      | depth + 1 => (entries? fuel depth true rest).map fun (es, rest) => (.inline es, rest)
    | 't' :: 'r' :: 'u' :: 'e' :: rest => some (.boolean true, rest)
    | 'f' :: 'a' :: 'l' :: 's' :: 'e' :: rest => some (.boolean false, rest)
    | cs =>
      if startsDate cs then datetime? cs
      else if startsTime cs then localTime? cs
      else number? cs

/-- Reads the items of an array and its closing bracket. A comma may follow the last item. -/
def items? : Nat → Nat → Bool → List Char → Option (List Term × List Char)
  | 0, _, _, _ => none
  | fuel + 1, depth, first, cs =>
    match skipLines? (cs.length + 1) cs, first with
    | some (']' :: rest), _ => some ([], rest)
    | some (',' :: rest), false =>
      match skipLines? (rest.length + 1) rest with
      | some (']' :: rest) => some ([], rest)
      | some cs => item? fuel depth cs
      | none => none
    | some cs, true => item? fuel depth cs
    | _, _ => none

/-- Reads an item and those behind it. -/
def item? : Nat → Nat → List Char → Option (List Term × List Char)
  | 0, _, _ => none
  | fuel + 1, depth, cs =>
    match value? fuel depth cs with
    | none => none
    | some (v, rest) => (items? fuel depth false rest).map fun (vs, rest) => (v :: vs, rest)

/-- Reads the entries of an inline table, which stands on one line, and its closing brace. -/
def entries? : Nat → Nat → Bool → List Char → Option (List (List String × Term) × List Char)
  | 0, _, _, _ => none
  | fuel + 1, depth, first, cs =>
    match skipSpace cs, first with
    | '\x7d' :: rest, _ => some ([], rest)
    | ',' :: rest, false => entry? fuel depth rest
    | cs, true => entry? fuel depth cs
    | _, false => none

/-- Reads an entry and those behind it. -/
def entry? : Nat → Nat → List Char → Option (List (List String × Term) × List Char)
  | 0, _, _ => none
  | fuel + 1, depth, cs =>
    match dottedKey? cs with
    | some (key, '=' :: rest) =>
      match value? fuel depth (skipSpace rest) with
      | none => none
      | some (v, rest) =>
        (entries? fuel depth false rest).map fun (es, rest) => ((key, v) :: es, rest)
    | _ => none

end

/-! ## Statements -/

/-- Reads a statement up to the end of its line. -/
def statement? (cs : List Char) : Option (Statement × List Char) :=
  match cs with
  | '[' :: '[' :: rest => do
    let (path, rest) ← dottedKey? rest
    match rest with
    | ']' :: ']' :: rest => return (.element path, ← lineEnd? rest)
    | _ => none
  | '[' :: rest => do
    let (path, rest) ← dottedKey? rest
    match rest with
    | ']' :: rest => return (.table path, ← lineEnd? rest)
    | _ => none
  | cs => do
    let (key, rest) ← dottedKey? cs
    match rest with
    | '=' :: rest =>
      let (v, rest) ← value? (3 * rest.length + 3) (nestingLimit - 1) (skipSpace rest)
      return (.entry key v, ← lineEnd? rest)
    | _ => none

/-- Reads the statements of a text; lines without one count for nothing. -/
def statementsFrom? : Nat → List Char → Option (List Statement)
  | 0, _ => none
  | fuel + 1, cs =>
    match skipSpace cs with
    | [] => some []
    | '#' :: cs => lineEnd? ('#' :: cs) >>= statementsFrom? fuel
    | cs =>
      match lineBreak? cs with
      | some cs => statementsFrom? fuel cs
      | none => do
        let (s, rest) ← statement? cs
        let ss ← statementsFrom? fuel rest
        return s :: ss

/-- Reads the statements of a whole text, behind a byte order mark if there is one. -/
def statements? (text : String) : Option (List Statement) :=
  let cs := match text.toList with
    | '\uFEFF' :: cs => cs
    | cs => cs
  statementsFrom? (cs.length + 1) cs

end Abacus.Toml
