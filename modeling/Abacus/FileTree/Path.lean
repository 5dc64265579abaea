import Abacus.Text.Blank

/-!
# Paths

A path is kept as it is written, because that is how it is shown. What it means are its parts: the
pieces between the slashes, of which two dots go up and one dot, or nothing at all, stays where it
is. A location is the same for a place that is known: the names from the root down.
-/

namespace Abacus

/-- The names from the root down to a place. -/
abbrev Location := List String

namespace Location

/-- A location as an absolute path. -/
def render (l : Location) : String := "/" ++ Text.joined "/" l

/-- The root and all locations on the way down to a place. -/
def fromRoot : Location → List Location
  | [] => [[]]
  | n :: ns => [] :: (fromRoot ns).map (n :: ·)

/-- A location and all those above it, from the nearest to the root. -/
def ancestors (l : Location) : List Location := l.fromRoot.reverse

end Location

/-- A path as it is written. -/
structure Path where
  text : String
  deriving DecidableEq, Repr, Inhabited

namespace Path

/-- A part of a path. -/
inductive Part where
  | here
  | up
  | name (n : String)
  deriving DecidableEq, Repr

namespace Part

/-- The part that is written between two slashes. -/
def ofPiece (cs : List Char) : Part :=
  match cs with
  | [] | ['.'] => here
  | ['.', '.'] => up
  | cs => name (String.ofList cs)

/-- A part as it is written. -/
def render : Part → String
  | here => "."
  | up => ".."
  | name n => n

end Part

/-- The path of a location. -/
def ofLocation (l : Location) : Path := ⟨l.render⟩

/-- A path from the root, as opposed to one from the current directory. -/
def isAbsolute (p : Path) : Bool :=
  match p.text.toList with
  | '/' :: _ => true
  | _ => false

/-- The parts of a path in turn. -/
def parts (p : Path) : List Part := (Text.pieces '/' p.text.toList).map Part.ofPiece

/-- The parts that lead somewhere. -/
def steps (p : Path) : List Part := p.parts.filter (· ≠ .here)

/-- The path that leads to `q` from where `p` leads. -/
def join (p q : Path) : Path :=
  if q.isAbsolute ∨ p.text = "" then q
  else if p.text.toList.getLast? = some '/' then ⟨p.text ++ q.text⟩
  else ⟨p.text ++ "/" ++ q.text⟩

/-- The locations on the way from a directory along parts of a path, as far as the names tell. -/
def passed (l : Location) : List Part → List Location
  | [] => []
  | .here :: rest => passed l rest
  | .up :: rest => l.dropLast :: passed l.dropLast rest
  | .name n :: rest => (l ++ [n]) :: passed (l ++ [n]) rest

/-- Two lists without the start that they share. -/
def withoutCommonStart : List Part → List Part → List Part × List Part
  | a :: as, b :: bs => if a = b then withoutCommonStart as bs else (a :: as, b :: bs)
  | as, bs => (as, bs)

/-- The steps from a directory to where an absolute path leads. -/
def stepsFrom (base : Location) (p : Path) : List Part :=
  let (steps, base) := withoutCommonStart p.steps (base.map Part.name)
  base.map (fun _ => Part.up) ++ steps

/-- An absolute path as it is shown to someone in a directory: by the steps from there if they are
fewer than from the root, which counts as a step itself, and as it is written otherwise. -/
def shownFrom (base : Location) (p : Path) : String :=
  let steps := p.stepsFrom base
  if steps.length < p.steps.length + 1 then Text.joined "/" (steps.map Part.render) else p.text

end Path

end Abacus
