import Abacus.Operation

/-!
# Commands

What the program can be asked to do.
-/

namespace Abacus

/-- A command with its options and values. -/
inductive Command where
  /-- Exercise every kind of calculator. -/
  | demo
  | selfCheck
  | sum (numbers : List Int64) (initial : Option Int64)
  | product (numbers : List Int64) (initial : Option Int64)
  /-- Carry out operations on a calculator. -/
  | run (variant : Variant) (initial : Option Int64) (operations : List String)
  | outline
  /-- Make a settings file. -/
  | init (force : Bool)
  /-- Show the settings. -/
  | config
  deriving DecidableEq, Repr

/-- The commands without their options. -/
inductive CommandName where
  | demo
  | selfCheck
  | sum
  | product
  | run
  | outline
  | init
  | config
  deriving DecidableEq, Repr

namespace CommandName

/-- The word that calls the command. -/
def text : CommandName → String
  | demo => "demo"
  | selfCheck => "self-check"
  | sum => "sum"
  | product => "product"
  | run => "run"
  | outline => "outline"
  | init => "init"
  | config => "config"

/-- Every command, in the order of the help text. -/
def all : List CommandName := [demo, selfCheck, sum, product, run, outline, init, config]

/-- The command of a name. -/
def ofText? (text : String) : Option CommandName := all.find? (·.text = text)

end CommandName

namespace Command

/-- The command without its options. -/
def name : Command → CommandName
  | demo => .demo
  | selfCheck => .selfCheck
  | sum .. => .sum
  | product .. => .product
  | run .. => .run
  | outline => .outline
  | init _ => .init
  | config => .config

end Command

end Abacus
