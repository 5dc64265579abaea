import Abacus.Toml.Statement

/-!
# Reading TOML: the document

The statements of a text are carried out on a growing tree of tables. A key can be written only
once, and a table can be opened by a header only once. A table that exists only because something
below it was mentioned is *implicit*: a header may still open it. A table that was made by the
points of a key is *dotted*: only further keys of the same section may add to it directly.
-/

namespace Abacus.Toml

/-- A place in the growing tree. -/
inductive Node where
  | value (v : Value)
  | table (implicit dotted : Bool) (entries : List (String × Node))
  /-- An array of tables, to which headers add elements. -/
  | tables (elements : List (List (String × Node)))

namespace Node

mutual

/-- The finished value of a place. -/
def toValue : Node → Value
  | .value v => v
  | .table _ _ entries => .table (toEntries entries)
  | .tables elements => .array (toElements elements)

def toEntries : List (String × Node) → List (String × Value)
  | [] => []
  | (k, n) :: rest => (k, toValue n) :: toEntries rest

def toElements : List (List (String × Node)) → List Value
  | [] => []
  | es :: rest => .table (toEntries es) :: toElements rest

end

end Node

/-- The entries of a table in the tree. -/
abbrev Nodes := List (String × Node)

/-- A change of a table: it is told whether the table is dotted. -/
abbrev Change := Bool → Nodes → Option Nodes

/-- Changes the table at a path. Tables on the way that do not exist yet are made; in an array of
tables the last element is meant. With `dotted` the path is part of a key: it makes dotted tables
and may not pass through a table that a header has opened. -/
def changeAt (dotted : Bool) (path : List String) (change : Change) (here : Bool) (nodes : Nodes) :
    Option Nodes :=
  match path with
  | [] => change here nodes
  | key :: path =>
    match nodes.lookup key with
    | none => do
      let inner ← changeAt dotted path change dotted []
      return Entries.insert key (.table true dotted inner) nodes
    | some (.value _) => none
    | some (.tables elements) =>
      match elements.getLast? with
      | none => none
      | some last => do
        let inner ← changeAt dotted path change false last
        return Entries.insert key (.tables (elements.dropLast ++ [inner])) nodes
    | some (.table implicit isDotted entries) =>
      if dotted && !implicit then none
      else do
        let inner ← changeAt dotted path change isDotted entries
        return Entries.insert key (.table implicit isDotted inner) nodes

/-- Writes a value at a new key of a table. A key with points belongs into a dotted table, one
without into any other. -/
def addValue (pointed : Bool) (key : String) (v : Value) : Change := fun dotted nodes =>
  if dotted != pointed then none
  else match nodes.lookup key with
    | some _ => none
    | none => some (Entries.insert key (.value v) nodes)

/-- Opens a table by its header. -/
def openTable (key : String) : Change := fun _ nodes =>
  match nodes.lookup key with
  | none => some (Entries.insert key (.table false false []) nodes)
  | some (.table true false entries) => some (Entries.insert key (.table false false entries) nodes)
  | some _ => none

/-- Opens a new element of an array of tables by its header. -/
def openElement (key : String) : Change := fun _ nodes =>
  match nodes.lookup key with
  | none => some (Entries.insert key (.tables [[]]) nodes)
  | some (.tables elements) => some (Entries.insert key (.tables (elements ++ [[]])) nodes)
  | some _ => none

/-- Writes a value at a key with its points. -/
def addEntry (key : List String) (v : Value) : Change := fun dotted nodes =>
  match key.getLast? with
  | none => none
  | some last =>
    changeAt true key.dropLast (addValue (key.length != 1) last v) dotted nodes

/-! ## Terms -/

mutual

/-- The value of a term; an inline table may not repeat a key. -/
def Term.toValue? : Term → Option Value
  | .string s => some (.string s)
  | .integer n => some (.integer n)
  | .float x => some (.float x)
  | .boolean b => some (.boolean b)
  | .datetime text => some (.datetime text)
  | .array items => (Term.toValues? items).map .array
  | .inline entries => (Term.addAll? [] entries).map fun nodes => .table (Node.toEntries nodes)

def Term.toValues? : List Term → Option (List Value)
  | [] => some []
  | t :: ts => do
    let v ← Term.toValue? t
    let vs ← Term.toValues? ts
    return v :: vs

/-- Adds the entries of an inline table in turn. -/
def Term.addAll? (nodes : Nodes) : List (List String × Term) → Option Nodes
  | [] => some nodes
  | (key, t) :: rest => do
    let v ← Term.toValue? t
    let nodes ← addEntry key v false nodes
    Term.addAll? nodes rest

end

/-! ## Documents -/

/-- The tree so far and the table that the last header opened. -/
structure Progress where
  nodes : Nodes := []
  path : List String := []

/-- Carries out a statement. -/
def Progress.step (p : Progress) : Statement → Option Progress
  | .entry key t => do
    let v ← t.toValue?
    let nodes ← changeAt false p.path (addEntry key v) false p.nodes
    return { p with nodes := nodes }
  | .table path => do
    let last ← path.getLast?
    let nodes ← changeAt false path.dropLast (openTable last) false p.nodes
    return ⟨nodes, path⟩
  | .element path => do
    let last ← path.getLast?
    let nodes ← changeAt false path.dropLast (openElement last) false p.nodes
    return ⟨nodes, path⟩

/-- Reads a document: the entries of its root table, or nothing if the text is not TOML. -/
def parse? (text : String) : Option (List (String × Value)) := do
  let statements ← statements? text
  let done ← statements.foldlM Progress.step {}
  return Node.toEntries done.nodes

end Abacus.Toml
