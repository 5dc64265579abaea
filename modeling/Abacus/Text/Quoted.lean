import Abacus.Text.Blank
import Abacus.Text.Integer
import Abacus.Text.GraphemeExtend
import Abacus.Text.Unprintable

/-!
# Quoted text

A text between double quotes on one line. Quotes, backslashes and the usual controls have short
escapes; any other character that would not show as itself (an unprintable one other than the
space, or a mark that attaches to its neighbour) is written as its code point in braces. Every
other character stands for itself.

A quoted text never holds a raw control, so it stays on one line, and the first quote that no
backslash escapes is its end.
-/

namespace Abacus.Text

/-- The characters that are written as a code point. -/
def needsCodePoint (c : Char) : Bool := (isUnprintable c && c != ' ') || isGraphemeExtend c

/-- A code point between `\u{` and `}`, in base sixteen. -/
def codePointEscape (c : Char) : List Char :=
  ['\\', 'u', '\x7b'] ++ (renderHex c.toNat).toList ++ ['\x7d']

/-- A character inside quotes, where `mark` is the quote itself. -/
def quoteChar (mark c : Char) : List Char :=
  if c = mark then ['\\', c]
  else match c with
    | '\\' => ['\\', '\\']
    | '\n' => ['\\', 'n']
    | '\t' => ['\\', 't']
    | '\r' => ['\\', 'r']
    | '\x00' => ['\\', '0']
    | c => if needsCodePoint c then codePointEscape c else [c]

/-- The text with every character written for the inside of double quotes. -/
def quoteChars (cs : List Char) : List Char := cs.flatMap (quoteChar '"')

/-- The text between double quotes. -/
def quoted (s : String) : String := String.ofList ('"' :: quoteChars s.toList ++ ['"'])

/-- A list of texts, quoted and separated by commas, between brackets. -/
def quotedList (texts : List String) : String := "[" ++ joined ", " (texts.map quoted) ++ "]"

end Abacus.Text
