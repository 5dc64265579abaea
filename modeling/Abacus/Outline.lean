import Abacus.Json.Value
import Abacus.Text.Integer

/-!
# The outline of the model

A fixed catalogue of the public symbols: traits, types, their methods and the free functions, with
a one-line summary each. A symbol is numbered by its place, counted from one. The catalogue can be
searched by qualified name, by implemented trait and by overridden method.
-/

namespace Abacus

/-- What a symbol names. -/
inductive SymbolKind where
  | function
  | method
  | struct
  | enum
  | trait
  deriving DecidableEq, Repr

namespace SymbolKind

def name : SymbolKind → String
  | function => "function"
  | method => "method"
  | struct => "struct"
  | enum => "enum"
  | trait => "trait"

def all : List SymbolKind := [function, method, struct, enum, trait]

def variants : List (String × SymbolKind) := all.map fun k => (k.name, k)

end SymbolKind

/-- A line of the catalogue. -/
structure OutlineEntry where
  name : String
  kind : SymbolKind
  container : Option String
  /-- The qualified name of the method that this one replaces. -/
  overrides : Option String
  summary : String
  deriving DecidableEq, Repr

namespace OutlineEntry

/-- A symbol of its own. -/
def top (kind : SymbolKind) (name summary : String) : OutlineEntry :=
  ⟨name, kind, none, none, summary⟩

/-- A method of a type or trait. -/
def method (container name summary : String) : OutlineEntry :=
  ⟨name, .method, some container, none, summary⟩

/-- A method that replaces one of another type. -/
def replacing (container name overridden summary : String) : OutlineEntry :=
  ⟨name, .method, some container, some overridden, summary⟩

end OutlineEntry

/-- A symbol of the catalogue with its number and the traits it implements. -/
structure OutlineSymbol where
  id : Nat
  name : String
  kind : SymbolKind
  container : Option String
  overrides : Option String
  implements : List String
  summary : String
  deriving DecidableEq, Repr

namespace OutlineSymbol

/-- The name behind its container, or alone at the top. -/
def qualifiedName (s : OutlineSymbol) : String :=
  match s.container with
  | some container => container ++ "::" ++ s.name
  | none => s.name

/-- Absent parts have no field. -/
def toJson (s : OutlineSymbol) : Json.Value :=
  .obj ([("id", .nat s.id), ("name", .str s.name), ("kind", .str s.kind.name)] ++
    (match s.container with
      | some c => [("container", .str c)]
      | none => []) ++
    (match s.overrides with
      | some o => [("overrides", .str o)]
      | none => []) ++
    (if s.implements = [] then [] else [("implements", .strings s.implements)]) ++
    [("summary", .str s.summary)])

end OutlineSymbol

namespace Outline

/-- The catalogue in the order of declaration. -/
def entries : List OutlineEntry := [
  .top .trait "Arithmetic"
    "Capability set shared by every calculator variant.",
  .method "Arithmetic" "add"
    "Add a number to the current value.",
  .method "Arithmetic" "subtract"
    "Subtract a number from the current value.",
  .method "Arithmetic" "multiply"
    "Multiply the current value by a number.",
  .method "Arithmetic" "divide"
    "Divide the current value by a number.",
  .method "Arithmetic" "value"
    "Get the current value.",
  .method "Arithmetic" "reset"
    "Reset the accumulator.",
  .top .trait "Computable"
    "Something that yields a single computed result and can be reset.",
  .method "Computable" "compute"
    "Produce the computed result.",
  .method "Computable" "reset"
    "Return to the initial state.",
  .top .enum "SqrtPolicy"
    "What the square root does with a negative value.",
  .top .struct "Calculator"
    "A simple calculator holding one integer accumulator.",
  .method "Calculator" "new"
    "Create a calculator seeded with an initial value.",
  .method "Calculator" "add"
    "Add a number to the current value.",
  .method "Calculator" "subtract"
    "Subtract a number from the current value.",
  .method "Calculator" "multiply"
    "Multiply the current value by a number.",
  .method "Calculator" "divide"
    "Divide the current value by a number.",
  .method "Calculator" "value"
    "Get the current value.",
  .method "Calculator" "reset"
    "Reset the calculator to zero.",
  .top .struct "ScientificCalculator"
    "A calculator with memory functionality.",
  .method "ScientificCalculator" "new"
    "Create a calculator with empty memory.",
  .method "ScientificCalculator" "with_sqrt_policy"
    "Choose the negative square root policy.",
  .method "ScientificCalculator" "store_memory"
    "Store current value in memory.",
  .method "ScientificCalculator" "recall_memory"
    "Recall value from memory.",
  .method "ScientificCalculator" "clear_memory"
    "Clear the memory.",
  .replacing "ScientificCalculator" "reset" "Calculator::reset"
    "Reset calculator and memory.",
  .method "ScientificCalculator" "compute_square_root"
    "Compute square root of current value.",
  .top .struct "AdvancedCalculator"
    "A calculator with operation history.",
  .method "AdvancedCalculator" "new"
    "Create a calculator with an empty history.",
  .replacing "AdvancedCalculator" "add" "Calculator::add"
    "Add and log the operation.",
  .replacing "AdvancedCalculator" "subtract" "Calculator::subtract"
    "Subtract and log the operation.",
  .method "AdvancedCalculator" "history"
    "Get the operation history.",
  .top .function "calculate_sum"
    "Calculate the sum of a list of numbers.",
  .top .function "calculate_product"
    "Calculate the product of a list of numbers.",
  .top .function "run_demo"
    "Demonstrate calculator usage.",
  .top .function "self_check"
    "Run basic tests."]

/-- Which type implements which trait. -/
def implementations : List (String × String) := [
  ("Calculator", "Arithmetic"),
  ("ScientificCalculator", "Arithmetic"),
  ("ScientificCalculator", "Computable"),
  ("AdvancedCalculator", "Arithmetic")]

/-- The traits that a type implements. -/
def traitsOf (typeName : String) : List String :=
  (implementations.filter (·.1 = typeName)).map (·.2)

/-- The symbol of an entry at a place, counted from zero. -/
def symbol (e : OutlineEntry) (place : Nat) : OutlineSymbol where
  id := place + 1
  name := e.name
  kind := e.kind
  container := e.container
  overrides := e.overrides
  implements := if e.kind = .struct ∧ e.container = none then traitsOf e.name else []
  summary := e.summary

/-- All symbols in the order of declaration. -/
def symbols : List OutlineSymbol := entries.zipIdx.map fun (e, i) => symbol e i

/-- The symbol of a qualified name. -/
def find? (qualifiedName : String) : Option OutlineSymbol :=
  symbols.find? (·.qualifiedName = qualifiedName)

/-- The types that implement a trait. -/
def implementorsOf (traitName : String) : List OutlineSymbol :=
  symbols.filter (·.implements.contains traitName)

/-- The symbols that override a method. -/
def overridersOf (qualifiedName : String) : List OutlineSymbol :=
  symbols.filter (·.overrides = some qualifiedName)

end Outline

end Abacus
