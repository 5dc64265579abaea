import Abacus.Command.Basic
import Abacus.Demo
import Abacus.Script
import Abacus.Settings.Basic

/-!
# What commands report

The events of a command: those of the calculators it uses, and its own on the target `cli`.
-/

namespace Abacus

open Text (renderInt64 renderNat)

/-- An event of the command line: what concerns it, and what happened. -/
def commandEvent (level : Log.Level) (topic message : String) : Log.Event :=
  ⟨level, "cli", "[" ++ topic ++ "] " ++ message⟩

namespace Aggregate

/-- The event of a computed fold. -/
def computed (topic : String) (numbers : List Int64) (initial value : Int64) : Log.Event :=
  commandEvent .info topic
    ("computed: " ++ renderNat numbers.length ++ " numbers from " ++ renderInt64 initial ++
      " -> " ++ renderInt64 value)

end Aggregate

namespace Script

/-- The events of a script that is about to run. -/
def started (variant : Variant) (initial : Int64) (policy : SqrtPolicy) (count : Nat) :
    List Log.Event :=
  [commandEvent .info "run"
      ("start: " ++ renderNat count ++ " ops on " ++ variant.name ++ " calculator from " ++
        renderInt64 initial),
    commandEvent .debug "run" ("sqrt policy: " ++ policy.inspect)]

end Script

namespace Command

/-- What is reported while a command is carried out. -/
def events (c : Command) (s : Settings) : List Log.Event :=
  match c with
  | .demo =>
    Demo.events ++
      [commandEvent .info "demo" ("finished: result " ++ renderInt64 Demo.report.result)]
  | .selfCheck => SelfCheck.events
  | .sum numbers initial =>
    let initial := initial.getD s.defaults.sumSeed
    Aggregate.addAllEvents ⟨initial⟩ numbers ++
      [Aggregate.computed "sum" numbers initial (Aggregate.sum numbers (some initial))]
  | .product numbers initial =>
    let initial := initial.getD s.defaults.productSeed
    Aggregate.multiplyAllEvents ⟨initial⟩ numbers ++
      [Aggregate.computed "product" numbers initial (Aggregate.product numbers (some initial))]
  | .run variant initial operations =>
    match Script.parse variant operations with
    | .error _ => []
    | .ok script =>
      let initial := initial.getD s.defaults.initialValue
      Script.started variant initial s.scientific.negativeSqrt operations.length ++
        script.events initial s.scientific.negativeSqrt
  | .outline | .init _ | .config => []

end Command

end Abacus
