import Abacus.Text.Blank
import Abacus.Text.Integer
import Abacus.Toml.Value

/-!
# Writing TOML

A document is a list of sections: the entries of the root table first, then each further table
under its header, with a blank line between sections. Values are strings and integers.

A string is written in the plainest form that can hold it. In this order: between double quotes, if
nothing has to be escaped; between single quotes; between three double quotes, if nothing has to be
escaped; between three single quotes; and only then between double quotes with escapes. The forms
with three quotes may hold quotes of their own kind, but not three in a row. A tab never has to be
escaped, but between double quotes it always is.
-/

namespace Abacus.Toml

open Abacus.Text

/-! ## Strings -/

/-- The longest run of `mark` in a text. -/
def longestRun (mark : Char) (cs : List Char) : Nat :=
  (cs.foldl (fun (run, best) c =>
    if c = mark then (run + 1, max best (run + 1)) else (0, best)) (0, 0)).2

/-- The quotes around a string: double or single ones, once or three times. -/
inductive StringForm where
  | basic
  | literal
  | blockBasic
  | blockLiteral
  deriving DecidableEq, Repr

/-- The plainest form that can hold a string. -/
def stringForm (cs : List Char) : StringForm :=
  let controls := cs.any isControl
  let lines := cs.contains '\n'
  let backslash := cs.contains '\\'
  if !controls && !backslash && !cs.contains '"' && !lines then .basic
  else if !controls && !cs.contains '\'' && !lines then .literal
  else if !controls && !backslash && longestRun '"' cs ≤ 2 then .blockBasic
  else if !controls && longestRun '\'' cs ≤ 2 then .blockLiteral
  else if lines then .blockBasic
  else .basic

/-- The escape `\u` with four digits of base sixteen, in capitals. -/
def unicodeEscape (n : Nat) : List Char :=
  ['\\', 'u'] ++ upperAscii [hexDigit (n / 4096), hexDigit (n / 256), hexDigit (n / 16), hexDigit n]

/-- A character other than the double quote, escaped where it has to be. -/
def escapeChar (c : Char) : List Char :=
  match c with
  | '\\' => ['\\', '\\']
  | '\x08' => ['\\', 'b']
  | '\t' => ['\\', 't']
  | '\n' => ['\\', 'n']
  | '\x0c' => ['\\', 'f']
  | '\r' => ['\\', 'r']
  | c => if isControl c then unicodeEscape c.toNat else [c]

/-- The text for the inside of double quotes on one line. -/
def escapedText (cs : List Char) : List Char :=
  cs.flatMap fun c => if c = '"' then ['\\', '"'] else escapeChar c

/-- The text for the inside of three double quotes: line breaks stay, and of the quotes in a row
every third one is escaped. `run` counts the quotes just written. -/
def escapedBlockText (run : Nat) : List Char → List Char
  | [] => []
  | '"' :: cs =>
    if run = 2 then '\\' :: '"' :: escapedBlockText 0 cs else '"' :: escapedBlockText (run + 1) cs
  | '\n' :: cs => '\n' :: escapedBlockText 0 cs
  | c :: cs => escapeChar c ++ escapedBlockText 0 cs

/-- The text between three marks on either side. A text of several lines starts on a line of its
own. -/
def block (mark : Char) (lines : Bool) (body : List Char) : List Char :=
  [mark, mark, mark] ++ (if lines then ['\n'] else []) ++ body ++ [mark, mark, mark]

/-- A string as a value. -/
def stringText (s : String) : List Char :=
  let cs := s.toList
  let lines := cs.contains '\n'
  match stringForm cs with
  | .basic => '"' :: escapedText cs ++ ['"']
  | .literal => '\'' :: cs ++ ['\'']
  | .blockBasic => block '"' lines (escapedBlockText 0 cs)
  | .blockLiteral => block '\'' lines cs

/-- A key: bare if it can be, otherwise on one line between quotes of the plainest kind. -/
def keyText (key : String) : List Char :=
  let cs := key.toList
  let controls := cs.any isControl || cs.contains '\n'
  if !cs.isEmpty && cs.all isBareKeyChar then cs
  else if !controls && !cs.contains '\\' && !cs.contains '"' then '"' :: escapedText cs ++ ['"']
  else if !controls && !cs.contains '\'' then '\'' :: cs ++ ['\'']
  else '"' :: escapedText cs ++ ['"']

/-! ## Documents -/

/-- A value that fits on the right of an equals sign. -/
inductive Scalar where
  | string (s : String)
  | integer (n : Int)
  deriving DecidableEq, Repr

def Scalar.text : Scalar → List Char
  | .string s => stringText s
  | .integer n => (renderInt n).toList

/-- A table with its place in the document. The root table has no place. -/
structure Section where
  path : List String
  entries : List (String × Scalar)

/-- A key and its value on a line. -/
def entryText (e : String × Scalar) : List Char :=
  keyText e.1 ++ [' ', '=', ' '] ++ e.2.text ++ ['\n']

/-- The keys of a place with points between them. -/
def pathText : List String → List Char
  | [] => []
  | [key] => keyText key
  | key :: rest => keyText key ++ '.' :: pathText rest

namespace Section

/-- The header, except for the root, and the entries. -/
def text (s : Section) : List Char :=
  (if s.path = [] then [] else '[' :: pathText s.path ++ [']', '\n']) ++ s.entries.flatMap entryText

end Section

/-- The sections with a blank line between neighbours. -/
def documentText : List Section → List Char
  | [] => []
  | [s] => s.text
  | s :: rest => s.text ++ '\n' :: documentText rest

/-- The text of a document. -/
def render (sections : List Section) : String := String.ofList (documentText sections)

end Abacus.Toml
