import Abacus.Proofs.Entries
import Abacus.Toml.Document

/-!
# The order of a document

The entries of every table of a document are in key order, whatever the order of its lines
(`ordered_of_parse?`). Each statement inserts into tables that are in order already, so the order is
an invariant of the growing tree. What stands in an array is left out: nobody looks there by a key.
-/

namespace Abacus.Toml

mutual

/-- The entries of all tables outside of arrays are in order. -/
def Value.Ordered : Value → Prop
  | .table es => Entries.Ordered es ∧ Value.OrderedEntries es
  | _ => True

def Value.OrderedEntries : List (String × Value) → Prop
  | [] => True
  | (_, v) :: rest => v.Ordered ∧ Value.OrderedEntries rest

end

mutual

/-- The entries of all tables outside of arrays are in order. -/
def Node.Ordered : Node → Prop
  | .value v => v.Ordered
  | .table _ _ es => Entries.Ordered es ∧ Node.OrderedEntries es
  | .tables _ => True

def Node.OrderedEntries : List (String × Node) → Prop
  | [] => True
  | (_, n) :: rest => n.Ordered ∧ Node.OrderedEntries rest

end

/-- A table of the growing tree that is in order with all below it. -/
def Nodes.Ordered (nodes : Nodes) : Prop := Entries.Ordered nodes ∧ Node.OrderedEntries nodes

theorem Node.orderedEntries_iff {es : List (String × Node)} :
    Node.OrderedEntries es ↔ ∀ e ∈ es, e.2.Ordered := by
  induction es with
  | nil => simp [Node.OrderedEntries]
  | cons e es ih => simp [Node.OrderedEntries, ih]

theorem Nodes.ordered_nil : Nodes.Ordered [] := ⟨List.Pairwise.nil, trivial⟩

theorem Nodes.Ordered.of_get? {nodes : Nodes} {k : String} {n : Node} (h : Nodes.Ordered nodes)
    (hn : nodes.lookup k = some n) : n.Ordered :=
  Node.orderedEntries_iff.1 h.2 (k, n) (Entries.mem_of_lookup hn)

theorem Nodes.Ordered.insert {nodes : Nodes} (h : Nodes.Ordered nodes) (k : String) {n : Node}
    (hn : n.Ordered) : Nodes.Ordered (Entries.insert k n nodes) := by
  refine ⟨Entries.ordered_insert k n h.1, Node.orderedEntries_iff.2 fun e he => ?_⟩
  rcases Entries.mem_insert he with rfl | he
  · exact hn
  · exact Node.orderedEntries_iff.1 h.2 e he

/-! ## Finished values -/

theorem Node.toEntries_eq (es : List (String × Node)) :
    Node.toEntries es = es.map fun e => (e.1, e.2.toValue) := by
  induction es with
  | nil => rfl
  | cons e es ih => rw [Node.toEntries, ih, List.map_cons]

mutual

theorem Node.ordered_toValue : (n : Node) → n.Ordered → n.toValue.Ordered
  | .value v, h => by simpa [Node.toValue, Node.Ordered] using h
  | .tables elements, _ => by simp [Node.toValue, Value.Ordered]
  | .table i d es, h => by
    rw [Node.toValue, Value.Ordered]
    refine ⟨?_, Node.orderedEntries_toEntries es h.2⟩
    rw [Node.toEntries_eq]
    exact List.pairwise_map.2 h.1

theorem Node.orderedEntries_toEntries : (es : List (String × Node)) → Node.OrderedEntries es →
    Value.OrderedEntries (Node.toEntries es)
  | [], _ => trivial
  | (_, n) :: rest, h => by
    rw [Node.toEntries, Value.OrderedEntries]
    exact ⟨Node.ordered_toValue n h.1, Node.orderedEntries_toEntries rest h.2⟩

end

/-! ## Changes -/

/-- A change that keeps tables in order. -/
def KeepsOrder (f : Change) : Prop :=
  ∀ dotted nodes nodes', Nodes.Ordered nodes → f dotted nodes = some nodes' → Nodes.Ordered nodes'

/-- A change somewhere below keeps the order if the change itself does. -/
theorem KeepsOrder.changeAt {f : Change} (hf : KeepsOrder f) (dotted : Bool)
    (path : List String) : KeepsOrder (changeAt dotted path f) := by
  induction path with
  | nil => exact hf
  | cons key path ih =>
    intro here nodes nodes' hnodes h
    rw [Toml.changeAt] at h
    split at h
    next =>
      obtain ⟨inner, hinner, h⟩ := Option.bind_eq_some_iff.1 h
      cases h
      exact hnodes.insert key (ih _ _ _ Nodes.ordered_nil hinner)
    next => cases h
    next elements _ =>
      split at h
      next => cases h
      next =>
        obtain ⟨inner, -, h⟩ := Option.bind_eq_some_iff.1 h
        cases h
        exact hnodes.insert key trivial
    next implicit isDotted entries hget =>
      split at h
      next => cases h
      next =>
        obtain ⟨inner, hinner, h⟩ := Option.bind_eq_some_iff.1 h
        cases h
        exact hnodes.insert key (ih _ _ _ (hnodes.of_get? hget) hinner)

theorem keepsOrder_addValue (pointed : Bool) (key : String) {v : Value} (hv : v.Ordered) :
    KeepsOrder (addValue pointed key v) := by
  intro dotted nodes nodes' hnodes h
  rw [addValue] at h
  split at h
  next => cases h
  next =>
    split at h
    next => cases h
    next =>
      cases h
      exact hnodes.insert key hv

theorem keepsOrder_openTable (key : String) : KeepsOrder (openTable key) := by
  intro dotted nodes nodes' hnodes h
  rw [openTable] at h
  split at h
  next =>
    cases h
    exact hnodes.insert key Nodes.ordered_nil
  next entries hget =>
    cases h
    have hopened : (Node.table true false entries).Ordered := hnodes.of_get? hget
    exact hnodes.insert key hopened
  next => cases h

theorem keepsOrder_openElement (key : String) : KeepsOrder (openElement key) := by
  intro dotted nodes nodes' hnodes h
  rw [openElement] at h
  split at h
  next =>
    cases h
    exact hnodes.insert key trivial
  next =>
    cases h
    exact hnodes.insert key trivial
  next => cases h

theorem keepsOrder_addEntry (key : List String) {v : Value} (hv : v.Ordered) :
    KeepsOrder (addEntry key v) := by
  intro dotted nodes nodes' hnodes h
  rw [addEntry] at h
  split at h
  next => cases h
  next last _ => exact (keepsOrder_addValue _ last hv).changeAt true _ dotted nodes nodes' hnodes h

/-! ## Terms and documents -/

mutual

theorem Term.ordered_toValue? : (t : Term) → ∀ v, t.toValue? = some v → v.Ordered
  | .string _, v, h | .integer _, v, h | .float _, v, h | .boolean _, v, h | .datetime _, v, h => by
    cases h
    trivial
  | .array items, v, h => by
    obtain ⟨vs, -, rfl⟩ := Option.map_eq_some_iff.1 h
    trivial
  | .inline entries, v, h => by
    obtain ⟨nodes, hnodes, rfl⟩ := Option.map_eq_some_iff.1 h
    exact Node.ordered_toValue (.table false false nodes)
      (Term.ordered_addAll? entries [] nodes Nodes.ordered_nil hnodes)

theorem Term.ordered_addAll? : (entries : List (List String × Term)) → ∀ nodes nodes',
    Nodes.Ordered nodes → Term.addAll? nodes entries = some nodes' → Nodes.Ordered nodes'
  | [], nodes, nodes', hnodes, h => by
    cases h
    exact hnodes
  | (key, t) :: rest, nodes, nodes', hnodes, h => by
    rw [Term.addAll?] at h
    obtain ⟨v, hv, h⟩ := Option.bind_eq_some_iff.1 h
    obtain ⟨next, hnext, h⟩ := Option.bind_eq_some_iff.1 h
    have hadd := keepsOrder_addEntry key (Term.ordered_toValue? t v hv) false nodes next hnodes
      hnext
    exact Term.ordered_addAll? rest next nodes' hadd h

end

theorem Progress.ordered_step {p q : Progress} {s : Statement} (hp : Nodes.Ordered p.nodes)
    (h : p.step s = some q) : Nodes.Ordered q.nodes := by
  cases s with
  | entry key t =>
    obtain ⟨v, hv, h⟩ := Option.bind_eq_some_iff.1 h
    obtain ⟨nodes, hnodes, h⟩ := Option.bind_eq_some_iff.1 h
    cases h
    exact (keepsOrder_addEntry key (Term.ordered_toValue? t v hv)).changeAt false _ _ _ _ hp hnodes
  | table path =>
    obtain ⟨last, -, h⟩ := Option.bind_eq_some_iff.1 h
    obtain ⟨nodes, hnodes, h⟩ := Option.bind_eq_some_iff.1 h
    cases h
    exact (keepsOrder_openTable last).changeAt false _ _ _ _ hp hnodes
  | element path =>
    obtain ⟨last, -, h⟩ := Option.bind_eq_some_iff.1 h
    obtain ⟨nodes, hnodes, h⟩ := Option.bind_eq_some_iff.1 h
    cases h
    exact (keepsOrder_openElement last).changeAt false _ _ _ _ hp hnodes

theorem Progress.ordered_run {ss : List Statement} {p q : Progress} (hp : Nodes.Ordered p.nodes)
    (h : ss.foldlM Progress.step p = some q) : Nodes.Ordered q.nodes := by
  induction ss generalizing p with
  | nil =>
    cases h
    exact hp
  | cons s ss ih =>
    rw [List.foldlM_cons] at h
    obtain ⟨next, hnext, h⟩ := Option.bind_eq_some_iff.1 h
    exact ih (Progress.ordered_step hp hnext) h

/-- **Whatever the order of its lines, a document is read in key order.** -/
theorem ordered_of_parse? {text : String} {es : List (String × Value)}
    (h : parse? text = some es) : (Value.table es).Ordered := by
  rw [parse?] at h
  obtain ⟨statements, -, h⟩ := Option.bind_eq_some_iff.1 h
  obtain ⟨done, hdone, h⟩ := Option.bind_eq_some_iff.1 h
  cases h
  exact Node.ordered_toValue (.table false false done.nodes)
    (Progress.ordered_run Nodes.ordered_nil hdone)

end Abacus.Toml
