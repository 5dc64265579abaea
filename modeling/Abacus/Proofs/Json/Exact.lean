import Abacus.Proofs.Entries
import Abacus.Proofs.Json.Drafts

/-!
# Values that a text holds exactly

Two things can get lost between a value and the value that is read for it: a double, which may be
read as a neighbour, and the order of the fields of an object, which are read in key order. A value
without doubles whose objects are in key order already is read as itself (`Value.Exact.reread_eq`).
-/

namespace Abacus.Json

namespace Value

mutual

/-- Free data without doubles: every integer fits into 64 bits, signed or unsigned, and every object
has its fields in key order, each key once. -/
def Exact : Value → Prop
  | .int n => -0x8000000000000000 ≤ n ∧ n < 0x10000000000000000
  | .float _ => False
  | .arr items => ExactItems items
  | .obj fields => Entries.Ordered fields ∧ ExactFields fields
  | _ => True

def ExactItems : List Value → Prop
  | [] => True
  | v :: vs => Exact v ∧ ExactItems vs

def ExactFields : List (String × Value) → Prop
  | [] => True
  | (_, v) :: vs => Exact v ∧ ExactFields vs

end

mutual

theorem Exact.readable {v : Value} (h : v.Exact) : v.Readable := by
  cases v with
  | null | bool | str => trivial
  | int n => exact h
  | float x => exact False.elim h
  | arr items => exact ExactItems.readable h
  | obj fields => exact ExactFields.readable h.2

theorem ExactItems.readable {vs : List Value} (h : ExactItems vs) : ReadableItems vs := by
  cases vs with
  | nil => trivial
  | cons v vs => exact ⟨Exact.readable h.1, ExactItems.readable h.2⟩

theorem ExactFields.readable {fields : List (String × Value)} (h : ExactFields fields) :
    ReadableFields fields := by
  cases fields with
  | nil => trivial
  | cons p fields => exact ⟨Exact.readable h.1, ExactFields.readable h.2⟩

end

mutual

/-- What is read for the text of an exact value is that value. -/
theorem Exact.reread_eq {v : Value} (h : v.Exact) : v.reread = v := by
  cases v with
  | null | bool | int | str => rfl
  | float x => exact False.elim h
  | arr items => rw [reread, ExactItems.reread_eq h]
  | obj fields =>
    rw [reread, ExactFields.reread_eq h.2, object, Entries.ofList_of_ordered h.1]

theorem ExactItems.reread_eq {vs : List Value} (h : ExactItems vs) : rereadItems vs = vs := by
  cases vs with
  | nil => rfl
  | cons v vs => rw [rereadItems, Exact.reread_eq h.1, ExactItems.reread_eq h.2]

theorem ExactFields.reread_eq {fields : List (String × Value)} (h : ExactFields fields) :
    rereadFields fields = fields := by
  cases fields with
  | nil => rfl
  | cons p fields => rw [rereadFields, Exact.reread_eq h.1, ExactFields.reread_eq h.2]

end

/-- Only `null` is taken for `null`. -/
theorem Exact.ofValue_ne_null {v : Value} (h : v.Exact) (hnull : v ≠ .null) :
    Draft.ofValue v ≠ .null := by
  cases v with
  | null => exact absurd rfl hnull
  | float x => exact False.elim h
  | bool | int | str | arr | obj => exact nofun

end Value

end Abacus.Json
