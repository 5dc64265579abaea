import Abacus.Proofs.Entries
import Abacus.Proofs.Toml.Statements
import Abacus.Toml.Document

/-!
# The lines of a section

Every line below a header changes the table that the header has opened. Two changes at one place are
one change (`changeAt_changeAt`), so a whole section is a single change of its table: it gets the
entries of the section, one behind the other (`foldlM_step_entries`).
-/

namespace Abacus.Toml

/-- Two changes at one place are one. -/
theorem changeAt_changeAt (path : List String) (f g : Change) (here : Bool) (nodes : Nodes) :
    ((changeAt false path f here nodes).bind fun ns => changeAt false path g here ns) =
      changeAt false path (fun dotted ns => (f dotted ns).bind (g dotted)) here nodes := by
  induction path generalizing here nodes with
  | nil => rfl
  | cons key path ih =>
    rw [changeAt, changeAt]
    -- The second change finds what the first one has put at the key, and replaces it.
    cases nodes.lookup key with
    | none =>
      simp only [Option.bind_eq_bind, ← ih]
      cases changeAt false path f false [] with
      | none => rfl
      | some inner => simp [changeAt, Entries.lookup_insert, Entries.insert_insert]
    | some node =>
      cases node with
      | value v => rfl
      | tables elements =>
        simp only
        cases elements.getLast? with
        | none => rfl
        | some last =>
          simp only [Option.bind_eq_bind, ← ih]
          cases changeAt false path f false last with
          | none => rfl
          | some inner => simp [changeAt, Entries.lookup_insert, Entries.insert_insert]
      | table implicit isDotted entries =>
        simp only [Bool.false_and, Bool.false_eq_true, if_false, Option.bind_eq_bind, ← ih]
        cases changeAt false path f isDotted entries with
        | none => rfl
        | some inner => simp [changeAt, Entries.lookup_insert, Entries.insert_insert]

/-- Writes values at keys without points, one behind the other. -/
def addValues (es : List (String × Value)) : Change := fun dotted nodes =>
  es.foldlM (fun ns e => addValue false e.1 e.2 dotted ns) nodes

/-- An empty table gets all values, if no key stands twice. -/
theorem addValues_nil {es : List (String × Value)} (h : (es.map Prod.fst).Nodup) :
    addValues es false [] = some ((Entries.ofList es).map fun e => (e.1, Node.value e.2)) := by
  suffices hacc : ∀ acc : List (String × Value), (∀ e ∈ es, acc.lookup e.1 = none) →
      es.foldlM (fun ns e => addValue false e.1 e.2 false ns)
          (acc.map fun e => (e.1, Node.value e.2)) =
        some ((es.foldl (fun acc (k, v) => Entries.insert k v acc) acc).map
          fun e => (e.1, Node.value e.2)) from
    hacc [] fun _ _ => rfl
  induction es with
  | nil => exact fun acc _ => rfl
  | cons e es ih =>
    obtain ⟨k, v⟩ := e
    obtain ⟨hhead, htail⟩ := List.nodup_cons.1 h
    intro acc hnew
    have hget : (acc.map fun e => (e.1, Node.value e.2)).lookup k = none := by
      rw [Entries.lookup_map, hnew (k, v) List.mem_cons_self]
      rfl
    have hadd : addValue false k v false (acc.map fun e => (e.1, Node.value e.2)) =
        some ((Entries.insert k v acc).map fun e => (e.1, Node.value e.2)) := by
      simp [addValue, hget, Entries.insert_map]
    rw [List.foldlM_cons, hadd, Option.bind_eq_bind, Option.bind_some]
    apply ih htail _
    intro e he
    have hne : e.1 ≠ k := fun heq => hhead (List.mem_map.2 ⟨e, he, heq⟩)
    rw [Entries.lookup_insert, if_neg hne]
    exact hnew e (List.mem_cons_of_mem _ he)

/-- The value that a line gives. -/
def Scalar.value : Scalar → Value
  | string s => .string s
  | integer n => .integer (Int64.ofInt n)

theorem Scalar.toValue?_term (v : Scalar) : v.term.toValue? = some v.value := by
  cases v <;> simp [Scalar.term, Scalar.value, Term.toValue?]

theorem addEntry_single (key : String) (v : Value) : addEntry [key] v = addValue false key v := by
  funext dotted nodes
  simp [addEntry, changeAt]

/-- **The lines of a section are one change of its table.** -/
theorem foldlM_step_entries (e : String × Scalar) (es : List (String × Scalar)) (p : Progress) :
    ((e :: es).map fun e => Statement.entry [e.1] e.2.term).foldlM Progress.step p =
      (changeAt false p.path (addValues ((e :: es).map fun e => (e.1, e.2.value))) false
        p.nodes).map fun ns => { p with nodes := ns } := by
  induction es generalizing e p with
  | nil =>
    have hone : addValues [(e.1, e.2.value)] = addValue false e.1 e.2.value := by
      funext dotted nodes
      simp [addValues]
    simp only [List.map_cons, List.map_nil, List.foldlM_cons, List.foldlM_nil, Progress.step,
      Scalar.toValue?_term, addEntry_single, hone, Option.bind_eq_bind, Option.bind_some,
      Option.pure_def]
    cases changeAt false p.path (addValue false e.1 e.2.value) false p.nodes <;> rfl
  | cons e' es ih =>
    have hsplit : addValues ((e :: e' :: es).map fun e => (e.1, e.2.value)) =
        fun dotted ns => (addValue false e.1 e.2.value dotted ns).bind
          (addValues ((e' :: es).map fun e => (e.1, e.2.value)) dotted) := by
      funext dotted nodes
      rw [addValues, List.map_cons, List.foldlM_cons]
      rfl
    rw [List.map_cons, List.foldlM_cons, hsplit, ← changeAt_changeAt]
    simp only [Progress.step, Scalar.toValue?_term, addEntry_single, Option.bind_eq_bind,
      Option.bind_some, Option.pure_def]
    cases changeAt false p.path (addValue false e.1 e.2.value) false p.nodes with
    | none => rfl
    | some nodes => exact ih e' { p with nodes := nodes }

end Abacus.Toml
