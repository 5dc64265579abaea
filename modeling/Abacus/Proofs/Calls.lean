import Abacus.Proofs.Runs

/-!
# Calls of calculators

A calculator can be called in more than one way: by its own operations, by the arithmetic that all
kinds share, and as something that computes a result. Each call through an interface that has the
operation is the step of a machine (`Machine.call?_eq`), so it leaves the machine that the operation
leaves (`Machine.exists_call?`), whether it is rejected or not.

Calls can follow each other in any mixture, and a rejected one does not keep the next from being
made. What such a series does is a matter of the single call (`exists_afterAll?`), whatever is
called there.
-/

namespace Abacus

/-! ## Series of calls -/

/-- The state after a call and what the call gives, or why it was rejected. -/
abbrev CallResult (C : Type) := Except CalcError (C × Option Output)

/-- The state after a call. A rejected call leaves it as it is. -/
def CallResult.next {S : Type} (s : S) : CallResult S → S
  | .ok (s', _) => s'
  | .error _ => s

/-- The state after calls in turn. -/
def afterAll? {S C : Type} (call? : S → C → Option (CallResult S)) (s : S) : List C → Option S
  | [] => some s
  | c :: calls => (call? s c).bind fun r => afterAll? call? (CallResult.next s r) calls

/-- Possible calls can be made in turn, and what they do to a state is `R` if every call adds its
own to what the calls behind it do. Every state meets `I`. -/
theorem exists_afterAll? {S C : Type} {call? : S → C → Option (CallResult S)} {I : S → Prop}
    {P : C → Prop} (R : S → List C → S → Prop) (hnil : ∀ s, R s [] s)
    (hcons : ∀ s c, I s → P c → ∃ r, call? s c = some r ∧ I (CallResult.next s r) ∧
      ∀ calls last, R (CallResult.next s r) calls last → R s (c :: calls) last)
    {s : S} (hs : I s) {calls : List C} (h : ∀ c ∈ calls, P c) :
    ∃ last, afterAll? call? s calls = some last ∧ I last ∧ R s calls last := by
  induction calls generalizing s with
  | nil => exact ⟨s, rfl, hs, hnil s⟩
  | cons c calls ih =>
    obtain ⟨hc, hrest⟩ := List.forall_mem_cons.1 h
    obtain ⟨r, hr, hnext, hadd⟩ := hcons s c hs hc
    obtain ⟨last, hlast, hI, hR⟩ := ih hnext hrest
    refine ⟨last, ?_, hI, hadd calls last hR⟩
    rw [afterAll?, hr]
    exact hlast

/-! ## Interfaces -/

/-- The ways to call a calculator. -/
inductive Interface where
  /-- By its own operations. -/
  | own
  /-- By what every kind of calculator can do. -/
  | arithmetic
  /-- As something that computes one result. -/
  | computable
  deriving DecidableEq

/-- A call of the arithmetic, by the operations in `A`. -/
def Arithmetic.call? {C : Type} (A : Arithmetic C) (c : C) : Operation → Option (CallResult C)
  | .add n => some (.ok (A.add c n, none))
  | .subtract n => some (.ok (A.subtract c n, none))
  | .multiply n => some (.ok (A.multiply c n, none))
  | .divide n => some ((A.divide c n).map fun x => (c, some (.float x)))
  | .value => some (.ok (c, some (.integer (A.value c))))
  | .reset => some (.ok (A.reset c, none))
  | .storeMemory | .recallMemory | .clearMemory | .squareRoot | .history => none

/-- A call of something that computes a result. -/
def Computable.call? {C : Type} (A : Computable C) (c : C) : Operation → Option (CallResult C)
  | .squareRoot => some ((A.compute c).map fun x => (c, some (.float x)))
  | .reset => some (.ok (A.reset c, none))
  | _ => none

namespace Calculator

/-- A call of a calculator. -/
def call? (c : Calculator) : Interface → Operation → Option (CallResult Calculator)
  | .own => Arithmetic.call? ⟨add, subtract, multiply, divide, value, reset⟩ c
  | .arithmetic => Arithmetic.call? inferInstance c
  | .computable => fun _ => none

end Calculator

namespace ScientificCalculator

/-- A call of a scientific calculator by its own operations. -/
def callOwn? (c : ScientificCalculator) : Operation → Option (CallResult ScientificCalculator)
  | .storeMemory => some (.ok (c.storeMemory, none))
  | .recallMemory => some (.ok (c, some (.integer c.recallMemory)))
  | .clearMemory => some (.ok (c.clearMemory, none))
  | .squareRoot => some (c.squareRoot.map fun x => (c, some (.float x)))
  | op => Arithmetic.call? ⟨add, subtract, multiply, divide, value, reset⟩ c op

/-- A call of a scientific calculator. -/
def call? (c : ScientificCalculator) :
    Interface → Operation → Option (CallResult ScientificCalculator)
  | .own => c.callOwn?
  | .arithmetic => Arithmetic.call? inferInstance c
  | .computable => Computable.call? inferInstance c

end ScientificCalculator

namespace AdvancedCalculator

/-- A call of an advanced calculator by its own operations. -/
def callOwn? (c : AdvancedCalculator) : Operation → Option (CallResult AdvancedCalculator)
  | .history => some (.ok (c, some (.history c.history)))
  | op => Arithmetic.call? ⟨add, subtract, multiply, divide, value, reset⟩ c op

/-- A call of an advanced calculator. -/
def call? (c : AdvancedCalculator) : Interface → Operation → Option (CallResult AdvancedCalculator)
  | .own => c.callOwn?
  | .arithmetic => Arithmetic.call? inferInstance c
  | .computable => fun _ => none

end AdvancedCalculator

/-- The interface of a variant's calculator has the operation. -/
def Interface.offers (i : Interface) (variant : Variant) (op : Operation) : Bool :=
  match i with
  | own => variant.supports op
  | arithmetic =>
    match op with
    | .add _ | .subtract _ | .multiply _ | .divide _ | .value | .reset => true
    | _ => false
  | computable => variant = .scientific ∧ (op = .squareRoot ∨ op = .reset)

theorem Interface.supports_of_offers {i : Interface} {variant : Variant} {op : Operation}
    (h : i.offers variant op = true) : variant.supports op = true := by
  cases i with
  | own => exact h
  | arithmetic => cases op <;> first | rfl | cases h
  | computable =>
    obtain ⟨rfl, rfl | rfl⟩ : variant = .scientific ∧ (op = .squareRoot ∨ op = .reset) :=
      of_decide_eq_true h
    · rfl
    · rfl

namespace Machine

open Operation (accumulator)

/-- A call of the calculator in a machine. -/
def call? (m : Machine) (i : Interface) (op : Operation) : Option Result :=
  match m with
  | basic c => (c.call? i op).map (·.map fun (c', output) => (basic c', output))
  | scientific c => (c.call? i op).map (·.map fun (c', output) => (scientific c', output))
  | advanced c => (c.call? i op).map (·.map fun (c', output) => (advanced c', output))

/-- The machine after calls in turn. -/
def afterCalls? (m : Machine) (calls : List (Interface × Operation)) : Option Machine :=
  afterAll? (fun m call => m.call? call.1 call.2) m calls

/-- What a calculation shows, seen from the calculator and from the machine around it. -/
theorem map_map_output {C : Type} (x : Except CalcError Float) (c : C) (wrap : C → Machine) :
    (x.map fun y => (c, some (Output.float y))).map (fun (c', output) => (wrap c', output)) =
      x.map fun y => (wrap c, some (Output.float y)) := by
  cases x <;> rfl

/-- A call through an interface that has the operation is the step of the machine. -/
theorem call?_eq (m : Machine) (i : Interface) (op : Operation) :
    m.call? i op = if i.offers m.variant op then m.step? op else none := by
  cases op with
  | divide n =>
    cases m <;> cases i <;> first | rfl | exact congrArg some (map_map_output _ _ _)
  | squareRoot =>
    cases m <;> cases i <;> first | rfl | exact congrArg some (map_map_output _ _ _)
  | _ => cases m <;> cases i <;> rfl

variable {m : Machine}

/-- A call through an interface that has the operation leaves what the operation leaves. -/
theorem exists_call? {i : Interface} {op : Operation} (h : i.offers m.variant op = true) :
    ∃ r, m.call? i op = some r ∧ CallResult.next m r = m.after op := by
  obtain ⟨r, hstep⟩ := Option.isSome_iff_exists.1 ((m.isSome_step?_iff op).trans
    (Interface.supports_of_offers h))
  refine ⟨r, by rw [call?_eq, if_pos h, hstep], ?_⟩
  rcases r with e | ⟨next, output⟩
  · exact (after_of_rejected hstep).symm
  · exact eq_after_of_step? hstep

/-- Calls can be made in any mixture of interfaces that have the operations, and what they do to the
machine depends on the operations alone. -/
theorem exists_afterCalls? (R : Machine → List Operation → Machine → Prop) (hnil : ∀ m, R m [] m)
    (hcons : ∀ m op ops last, R (m.after op) ops last → R m (op :: ops) last)
    {calls : List (Interface × Operation)}
    (h : ∀ call ∈ calls, call.1.offers m.variant call.2 = true) :
    ∃ m', m.afterCalls? calls = some m' ∧ m'.variant = m.variant ∧
      R m (calls.map Prod.snd) m' := by
  refine exists_afterAll? (I := fun m' => m'.variant = m.variant)
    (fun m calls last => R m (calls.map Prod.snd) last) hnil (fun m' call hvariant hcall => ?_)
    rfl h
  obtain ⟨r, hr, hnext⟩ := exists_call? (hvariant ▸ hcall)
  refine ⟨r, hr, ?_, ?_⟩
  · rw [hnext, variant_after, hvariant]
  · rw [hnext]
    exact fun calls last => hcons m' call.2 _ last

end Machine

end Abacus
