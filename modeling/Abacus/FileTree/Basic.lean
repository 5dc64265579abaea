import Abacus.Dict
import Abacus.FileTree.Path

/-!
# File trees

A tree of directories and files with texts as their content. `get?` looks at a place and `put`
changes one; everything else is a change at the end of a path, which is followed from a directory
step by step: every step needs a directory to start from, and only the last one may lead to a place
that is still empty.

The law of the two is `get?_put_self`: a change is seen where it was made. A change of several steps
may be broken off; it has a result if each of its steps has one (`Attempt.result_next`).
-/

namespace Abacus

/-- A regular file with its content, or a directory with its named entries. -/
inductive FileTree where
  | file (content : String)
  | directory (entries : List (String × FileTree))

/-- Why a path does not lead where it should. -/
inductive FileError where
  | noSuchFile
  | fileExists
  | notDirectory
  | isDirectory
  deriving DecidableEq, Repr

namespace FileError

def message : FileError → String
  | noSuchFile => "No such file or directory (os error 2)"
  | fileExists => "File exists (os error 17)"
  | notDirectory => "Not a directory (os error 20)"
  | isDirectory => "Is a directory (os error 21)"

end FileError

namespace FileTree

/-- The tree with nothing in it. -/
def empty : FileTree := .directory []

instance : Inhabited FileTree := ⟨empty⟩

/-! ## Places -/

/-- What a directory holds; a file holds no entries. -/
def entries : FileTree → List (String × FileTree)
  | file _ => []
  | directory es => es

/-- What is at a location. -/
def get? : FileTree → Location → Option FileTree
  | t, [] => some t
  | t, n :: ns =>
    match t.entries.lookup n with
    | some t' => t'.get? ns
    | none => none

/-- The tree with `node` at a location. -/
def put : FileTree → Location → FileTree → FileTree
  | _, [], node => node
  | t, n :: ns, node =>
    .directory (Entries.insert n (((t.entries.lookup n).getD empty).put ns node) t.entries)

/-- The content of the file at a location. -/
def content? (t : FileTree) (l : Location) : Option String :=
  match t.get? l with
  | some (.file content) => some content
  | _ => none

/-- There is a directory at a location. -/
def isDirectoryAt (t : FileTree) (l : Location) : Bool :=
  match t.get? l with
  | some (.directory _) => true
  | _ => false

mutual

/-- All files with their locations, in the order of the names. -/
def files : FileTree → List (Location × String)
  | file content => [([], content)]
  | directory es => filesOf es

def filesOf : List (String × FileTree) → List (Location × String)
  | [] => []
  | (n, t) :: rest => (files t).map (fun (l, content) => (n :: l, content)) ++ filesOf rest

end

/-! ## Following paths -/

/-- The location to which parts of a path lead from a directory. -/
def follow (t : FileTree) (l : Location) : List Path.Part → Except FileError Location
  | [] => .ok l
  | part :: rest =>
    match t.get? l with
    | none => .error .noSuchFile
    | some (.file _) => .error .notDirectory
    | some (.directory _) =>
      match part with
      | .here => t.follow l rest
      | .up => t.follow l.dropLast rest
      | .name n => t.follow (l ++ [n]) rest

/-- The directory from which a path starts. -/
def startOf (base : Location) (p : Path) : Location := if p.isAbsolute then [] else base

/-- The location to which a path leads; the empty path leads nowhere. -/
def locate (t : FileTree) (base : Location) (p : Path) : Except FileError Location :=
  if p.text = "" then .error .noSuchFile else t.follow (startOf base p) p.parts

/-- What a path leads to. -/
def find? (t : FileTree) (base : Location) (p : Path) : Option FileTree :=
  match t.locate base p with
  | .ok l => t.get? l
  | .error _ => none

/-- A path leads to something. -/
def holds (t : FileTree) (base : Location) (p : Path) : Bool := (t.find? base p).isSome

/-- The content of the file to which a path leads. -/
def read? (t : FileTree) (base : Location) (p : Path) : Option String :=
  match t.find? base p with
  | some (.file content) => some content
  | _ => none

/-! ## Changes -/

/-- Makes a directory, which may be there already. -/
def ensureDirectory (t : FileTree) (start : Location) (parts : List Path.Part) :
    Except FileError FileTree := do
  let l ← t.follow start parts
  match t.get? l with
  | none => .ok (t.put l empty)
  | some (.directory _) => .ok t
  | some (.file _) => .error .fileExists

/-- A tree after a change of several steps, which may have been broken off. -/
structure Attempt where
  /-- The tree, with the steps that were made. -/
  tree : FileTree
  /-- Why the change was broken off, if it was. -/
  fault : Option FileError

namespace Attempt

/-- A change of one step, which is made or not. -/
def ofStep (before : FileTree) : Except FileError FileTree → Attempt
  | .ok after => ⟨after, none⟩
  | .error e => ⟨before, some e⟩

/-- One more step of a change that was not broken off. -/
def next (a : Attempt) (step : FileTree → Except FileError FileTree) : Attempt :=
  match a.fault with
  | none => ofStep a.tree (step a.tree)
  | some _ => a

/-- The tree of a change that was made in full. -/
def result (a : Attempt) : Except FileError FileTree :=
  match a.fault with
  | none => .ok a.tree
  | some e => .error e

end Attempt

/-- Makes a directory and those on the way to it. The parts of the path come in reverse: only where
the way to the last one is missing, the part before it is made first. -/
def makeDirectories (t : FileTree) (start : Location) : List Path.Part → Attempt
  | [] => ⟨t, none⟩
  | part :: trail =>
    match t.ensureDirectory start (part :: trail).reverse with
    | .error .noSuchFile =>
      (t.makeDirectories start trail).next fun t => t.ensureDirectory start (part :: trail).reverse
    | r => .ofStep t r

/-- Makes the directory in which the last step of a path ends up, with those on the way to it. -/
def makeParent (t : FileTree) (base : Location) (p : Path) : Attempt :=
  t.makeDirectories (startOf base p) p.steps.reverse.tail

/-- The tree with a directory and those on the way to it, if all of them can be made. -/
def ensureDirectories (t : FileTree) (start : Location) (trail : List Path.Part) :
    Except FileError FileTree :=
  (t.makeDirectories start trail).result

/-- The tree with the directory in which the last step of a path ends up, if it can be made. -/
def ensureParent (t : FileTree) (base : Location) (p : Path) : Except FileError FileTree :=
  (t.makeParent base p).result

/-- Writes a file at the end of a path. A path that ends in a slash means a directory. -/
def write (t : FileTree) (base : Location) (p : Path) (content : String) :
    Except FileError FileTree :=
  if p.text.toList.getLast? = some '/' then do
    let _ ← t.follow (startOf base p) p.parts.dropLast
    .error .isDirectory
  else do
    let l ← t.locate base p
    match t.get? l with
    | some (.directory _) => .error .isDirectory
    | _ => .ok (t.put l (.file content))

/-! ## Laws -/

@[simp] theorem get?_nil (t : FileTree) : t.get? [] = some t := by cases t <;> rfl

@[simp] theorem entries_directory (es : List (String × FileTree)) :
    (directory es).entries = es := rfl

/-- A change is seen where it was made. -/
@[simp] theorem get?_put_self (t : FileTree) (l : Location) (node : FileTree) :
    (t.put l node).get? l = some node := by
  induction l generalizing t with
  | nil => simp [put]
  | cons n ns ih => simp [put, get?, Entries.lookup_insert, ih]

namespace Attempt

@[simp] theorem result_ofStep (before : FileTree) (r : Except FileError FileTree) :
    (ofStep before r).result = r := by
  cases r <;> rfl

/-- One more step comes behind a change that was made in full. -/
theorem result_next (a : Attempt) (step : FileTree → Except FileError FileTree) :
    (a.next step).result = a.result >>= step := by
  obtain ⟨tree, fault⟩ := a
  cases fault with
  | none => exact result_ofStep tree (step tree)
  | some e => rfl

end Attempt

end FileTree

end Abacus
