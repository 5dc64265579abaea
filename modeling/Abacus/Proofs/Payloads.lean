import Abacus.Command.Answer
import Abacus.Proofs.Entries
import Abacus.Proofs.Envelope

/-!
# The data of answers

The data of every answer can be given back by its envelope (`Payload`). Most of it consists of
integers of 64 bits and of texts; the only doubles are those that a step of a script shows, and
each of them is the result of a division or of a square root (`Machine.tame_of_step?`).

When data is read again, the fields of its objects are found as before and its lists keep their
lengths.
-/

namespace Abacus

open Doubles (Tame)
open Json (Draft Value)

/-! ## Lists and objects -/

namespace Json.Value

theorem readableItems_iff {vs : List Value} : ReadableItems vs ↔ ∀ v ∈ vs, v.Readable := by
  induction vs with
  | nil => exact ⟨fun _ _ hv => (List.not_mem_nil hv).elim, fun _ => trivial⟩
  | cons v vs ih => rw [ReadableItems, ih, List.forall_mem_cons]

theorem readableItems_map {α : Type} {f : α → Value} {as : List α}
    (h : ∀ a ∈ as, (f a).Readable) : ReadableItems (as.map f) :=
  readableItems_iff.2 (List.forall_mem_map.2 h)

theorem readableFields_iff {fields : List (String × Value)} :
    ReadableFields fields ↔ ∀ p ∈ fields, p.2.Readable := by
  induction fields with
  | nil => exact ⟨fun _ _ hp => (List.not_mem_nil hp).elim, fun _ => trivial⟩
  | cons p fields ih => rw [ReadableFields, ih, List.forall_mem_cons]

theorem depthItems_le_iff {vs : List Value} {n : Nat} :
    depthItems vs ≤ n ↔ ∀ v ∈ vs, v.depth ≤ n := by
  induction vs with
  | nil => exact ⟨fun _ _ hv => (List.not_mem_nil hv).elim, fun _ => Nat.zero_le n⟩
  | cons v vs ih => rw [depthItems, Nat.max_le, ih, List.forall_mem_cons]

theorem depthItems_map_le {α : Type} {f : α → Value} {as : List α} {n : Nat}
    (h : ∀ a ∈ as, (f a).depth ≤ n) : depthItems (as.map f) ≤ n :=
  depthItems_le_iff.2 (List.forall_mem_map.2 h)

theorem depthFields_le_iff {fields : List (String × Value)} {n : Nat} :
    depthFields fields ≤ n ↔ ∀ p ∈ fields, p.2.depth ≤ n := by
  induction fields with
  | nil => exact ⟨fun _ _ hp => (List.not_mem_nil hp).elim, fun _ => Nat.zero_le n⟩
  | cons p fields ih => rw [depthFields, Nat.max_le, ih, List.forall_mem_cons]

theorem readable_strings (texts : List String) : (strings texts).Readable :=
  readableItems_map fun _ _ => trivial

theorem depth_strings (texts : List String) : (strings texts).depth ≤ 1 :=
  Nat.succ_le_succ (depthItems_map_le fun _ _ => Nat.le_refl 0)

/-- The value of a field of an object. -/
def field? (name : String) : Value → Option Value
  | .obj fields => fields.lookup name
  | _ => none

/-- The items of an array. -/
def items? : Value → Option (List Value)
  | .arr items => some items
  | _ => none

theorem rereadItems_eq (vs : List Value) : rereadItems vs = vs.map reread := by
  induction vs with
  | nil => rfl
  | cons v vs ih => rw [rereadItems, ih, List.map_cons]

theorem rereadFields_eq (fields : List (String × Value)) :
    rereadFields fields = fields.map fun p => (p.1, p.2.reread) := by
  induction fields with
  | nil => rfl
  | cons p fields ih =>
    obtain ⟨k, v⟩ := p
    rw [rereadFields, ih, List.map_cons]

/-- No key of the outermost object stands twice. -/
def KeysNodup : Value → Prop
  | .obj fields => (fields.map Prod.fst).Nodup
  | _ => True

/-- A field that was written is found again. -/
theorem field?_reread {v : Value} (h : v.KeysNodup) (name : String) :
    v.reread.field? name = (v.field? name).map reread := by
  cases v with
  | obj fields =>
    have hnodup : ((fields.map fun p => (p.1, p.2.reread)).map Prod.fst).Nodup := by
      rw [Entries.map_fst_map]
      exact h
    rw [reread, rereadFields_eq, object, field?, Entries.lookup_ofList hnodup, Entries.lookup_map]
    rfl
  | float x =>
    rw [reread, rereadFloat]
    split <;> rfl
  | _ => rfl

theorem items?_reread (v : Value) : v.reread.items? = v.items?.map (List.map reread) := by
  cases v with
  | arr items => exact congrArg some (rereadItems_eq items)
  | float x =>
    rw [reread, rereadFloat]
    split <;> rfl
  | _ => rfl

end Json.Value

/-! ## Steps and reports -/

namespace Machine

/-- A double that a step shows is a quotient or a square root. -/
theorem tame_of_step? {m m' : Machine} {op : Operation} {x : Float}
    (h : m.step? op = some (.ok (m', some (.float x)))) : Tame x := by
  cases op with
  | divide n =>
    have hdivide : m.divide n = m.base.divide n := by
      cases m <;> rfl
    rw [step?, hdivide] at h
    cases hresult : m.base.divide n with
    | error e =>
      rw [hresult] at h
      cases h
    | ok y =>
      rw [hresult] at h
      cases h
      exact Doubles.tame_divide hresult
  | squareRoot =>
    cases m with
    | scientific c =>
      rw [step?] at h
      cases hresult : c.squareRoot with
      | error e =>
        rw [hresult] at h
        cases h
      | ok y =>
        rw [hresult] at h
        cases h
        exact Doubles.tame_squareRoot hresult
    | basic c => cases h
    | advanced c => cases h
  | _ => cases m <;> cases h

theorem tame_of_mem_run? {m : Machine} {ops : List Operation} {r : Run} (h : m.run? ops = some r)
    {s : Step} (hs : s ∈ r.steps) {x : Float} (hx : s.output = some (.float x)) : Tame x := by
  induction ops generalizing m r with
  | nil =>
    cases h
    cases hs
  | cons op ops ih =>
    rw [run?] at h
    rcases hstep : m.step? op with - | (e | ⟨m', output⟩)
    · rw [hstep] at h
      cases h
    · rw [hstep] at h
      cases h
      cases hs
    · rw [hstep] at h
      obtain ⟨rest, hrest, rfl⟩ := Option.map_eq_some_iff.1 h
      rcases List.mem_cons.1 hs with rfl | hs
      · cases hx
        exact tame_of_step? hstep
      · exact ih hrest hs

end Machine

namespace Output

theorem readable_toJson {o : Output} (h : ∀ x, o = .float x → Tame x) : o.toJson.Readable := by
  cases o with
  | integer n => exact Value.readable_int64 n
  | float x =>
    rw [toJson]
    split
    next => exact h x rfl
    next => trivial
  | history entries => exact Value.readable_strings entries

theorem depth_toJson (o : Output) : o.toJson.depth ≤ 1 := by
  cases o with
  | integer n => exact Nat.zero_le 1
  | float x =>
    rw [toJson]
    split <;> exact Nat.zero_le 1
  | history entries => exact Value.depth_strings entries

end Output

namespace Step

theorem readable_toJson {s : Step} (h : ∀ x, s.output = some (.float x) → Tame x) :
    s.toJson.Readable := by
  obtain ⟨operation, value, output⟩ := s
  cases output with
  | none => exact ⟨trivial, Value.readable_int64 value, trivial⟩
  | some o =>
    have houtput := Output.readable_toJson fun x hx => h x (congrArg some hx)
    exact ⟨trivial, Value.readable_int64 value, houtput, trivial⟩

theorem depth_toJson (s : Step) : s.toJson.depth ≤ 2 := by
  obtain ⟨operation, value, output⟩ := s
  cases output with
  | none => exact Nat.le_succ 1
  | some o =>
    have houtput := o.depth_toJson
    simp only [toJson, Value.depth, Value.depthFields, List.cons_append, List.nil_append,
      Value.int64]
    omega

end Step

namespace Report

/-- A report can be given back if the doubles that it shows come from a calculator. -/
theorem payload_toJson {r : Report}
    (h : ∀ s ∈ r.steps, ∀ x, s.output = some (.float x) → Tame x) : Payload r.toJson where
  readable := by
    have hsteps : Value.ReadableItems (r.steps.map Step.toJson) :=
      Value.readableItems_map fun s hs => s.readable_toJson (h s hs)
    exact ⟨trivial, Value.readable_int64 r.initial, hsteps, Value.readable_int64 r.finalValue,
      trivial⟩
  depth_le := by
    have hsteps : Value.depthItems (r.steps.map Step.toJson) ≤ 2 :=
      Value.depthItems_map_le fun s _ => s.depth_toJson
    simp only [toJson, Value.depth, Value.depthFields, Value.int64, Value.depthLimit]
    omega
  not_null := nofun

end Report

namespace Script

theorem payload_report (s : Script) (initial : Int64) (policy : SqrtPolicy) :
    Payload (s.report initial (s.run initial policy).steps).toJson := by
  have hrun : (s.machine initial policy).run? s.operations = some (s.run initial policy) :=
    (Option.some_get _).symm
  exact Report.payload_toJson fun step hstep x hx => Machine.tame_of_mem_run? hrun hstep hx

theorem payload_of_ok {s : Script} {initial : Int64} {policy : SqrtPolicy} {r : Report}
    (h : s.execute initial policy = .ok r) : Payload r.toJson := by
  simp only [execute] at h
  split at h
  next =>
    cases h
    exact s.payload_report initial policy
  next => cases h

theorem payload_of_error {s : Script} {initial : Int64} {policy : SqrtPolicy} {f : Failure}
    (h : s.execute initial policy = .error f) : Payload f.completed.toJson := by
  simp only [execute] at h
  split at h
  next => cases h
  next =>
    cases h
    exact s.payload_report initial policy

end Script

/-! ## The other commands -/

theorem Aggregate.payload_resultJson (numbers : List Int64) (initial value : Int64) :
    Payload (resultJson numbers initial value) where
  readable := by
    have hnumbers : Value.ReadableItems (numbers.map .int64) :=
      Value.readableItems_map fun n _ => Value.readable_int64 n
    exact ⟨hnumbers, Value.readable_int64 initial, Value.readable_int64 value, trivial⟩
  depth_le := by
    have hnumbers : Value.depthItems (numbers.map .int64) ≤ 0 :=
      Value.depthItems_map_le fun _ _ => Nat.le_refl 0
    simp only [resultJson, Value.depth, Value.depthFields, Value.int64, Value.depthLimit]
    omega
  not_null := nofun

theorem DemoReport.payload_toJson (r : DemoReport) : Payload r.toJson where
  readable := ⟨Value.readable_int64 r.result, Value.readable_int64 r.scientificMemory,
    Value.readable_strings r.history, trivial⟩
  depth_le := by
    have hhistory := Value.depth_strings r.history
    simp only [toJson, Value.depth, Value.depthFields, Value.int64, Value.depthLimit]
    omega
  not_null := nofun

theorem SelfCheck.payload_toJson (c : SelfCheck) : Payload c.toJson where
  readable := ⟨Value.readable_int64 c.expected, Value.readable_int64 c.actual, trivial⟩
  depth_le := by
    simp only [toJson, Value.depth, Value.depthFields, Value.int64, Value.depthLimit]
    omega
  not_null := nofun

theorem payload_str (s : String) : Payload (.str s) where
  readable := trivial
  depth_le := Nat.zero_le _
  not_null := nofun

namespace OutlineSymbol

/-- A symbol is an object of texts, a number and a list of texts. -/
theorem fields_toJson {s : OutlineSymbol} (h : s.id < 0x10000000000000000) :
    ∃ fields, s.toJson = .obj fields ∧ ∀ p ∈ fields, p.2.Readable ∧ p.2.depth ≤ 1 := by
  have hid : (Value.nat s.id).Readable := ⟨by omega, by omega⟩
  have htext : ∀ text, (Value.str text).Readable ∧ (Value.str text).depth ≤ 1 := fun _ =>
    ⟨trivial, Nat.zero_le 1⟩
  refine ⟨_, rfl, fun p hp => ?_⟩
  simp only [List.mem_append] at hp
  rcases hp with (((hp | hp) | hp) | hp) | hp
  · simp only [List.mem_cons, List.not_mem_nil, or_false] at hp
    rcases hp with rfl | rfl | rfl
    · exact ⟨hid, Nat.zero_le 1⟩
    · exact htext s.name
    · exact htext s.kind.name
  · split at hp
    next container _ =>
      cases List.mem_singleton.1 hp
      exact htext container
    next => cases hp
  · split at hp
    next overrides _ =>
      cases List.mem_singleton.1 hp
      exact htext overrides
    next => cases hp
  · split at hp
    next => cases hp
    next =>
      cases List.mem_singleton.1 hp
      exact ⟨Value.readable_strings s.implements, Value.depth_strings s.implements⟩
  · cases List.mem_singleton.1 hp
    exact htext s.summary

theorem readable_toJson {s : OutlineSymbol} (h : s.id < 0x10000000000000000) :
    s.toJson.Readable := by
  obtain ⟨fields, hfields, hall⟩ := fields_toJson h
  rw [hfields]
  exact Value.readableFields_iff.2 fun p hp => (hall p hp).1

theorem depth_toJson {s : OutlineSymbol} (h : s.id < 0x10000000000000000) :
    s.toJson.depth ≤ 2 := by
  obtain ⟨fields, hfields, hall⟩ := fields_toJson h
  rw [hfields]
  exact Nat.succ_le_succ (Value.depthFields_le_iff.2 fun p hp => (hall p hp).2)

end OutlineSymbol

theorem Outline.id_lt : ∀ s ∈ symbols, s.id < 0x10000000000000000 := by
  intro s hs
  obtain ⟨⟨e, i⟩, hentry, rfl⟩ := List.mem_map.1 hs
  have hplace := List.snd_lt_of_mem_zipIdx hentry
  have hcount : entries.length = 36 := rfl
  simp only [symbol]
  omega

theorem Outline.payload_symbols : Payload (.arr (symbols.map OutlineSymbol.toJson)) where
  readable := Value.readableItems_map fun s hs => OutlineSymbol.readable_toJson (id_lt s hs)
  depth_le := by
    have hsymbols : Value.depthItems (symbols.map OutlineSymbol.toJson) ≤ 2 :=
      Value.depthItems_map_le fun s hs => OutlineSymbol.depth_toJson (id_lt s hs)
    simp only [Value.depth, Value.depthLimit]
    omega
  not_null := nofun

end Abacus
