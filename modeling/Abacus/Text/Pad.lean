/-!
# Padded text

A text cut to at most `precision` characters and then filled with spaces to at least `width`
characters. A text that is already as wide is left alone, so padding never loses a character.
-/

namespace Abacus.Text

/-- Where the text stands in its field. -/
inductive Alignment where
  | left
  | right
  | center
  deriving DecidableEq, Repr

/-- A run of `n` spaces. -/
def spaces (n : Nat) : String := String.ofList (List.replicate n ' ')

/-- The text in a field of at least `width` characters; centring puts the odd space on the right. -/
def pad (alignment : Alignment) (width : Nat) (s : String) : String :=
  let room := width - s.length
  match alignment with
  | .left => s ++ spaces room
  | .right => spaces room ++ s
  | .center => spaces (room / 2) ++ s ++ spaces (room - room / 2)

/-- The first `precision` characters, or all of them if there is no limit. -/
def truncated (precision : Option Nat) (s : String) : String :=
  match precision with
  | none => s
  | some n => String.ofList (s.toList.take n)

end Abacus.Text
