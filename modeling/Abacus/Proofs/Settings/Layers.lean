import Abacus.Proofs.Entries
import Abacus.Settings.Layer

/-!
# What layers say at a path

A layer laid over another one answers for a path what the upper one says, and what the lower one
says where the upper one says nothing (`at?_merge_of_value`). This needs two things of the upper
layer: no key stands twice in a table, and no value without parts stands on the way, because such a
value would hide all that the lower layer says below it.

In any case nothing is said that neither layer said (`said_of_merge`).
-/

namespace Abacus.Settings.Layer

/-- What a layer says at a path. -/
def at? : List String → Layer → Option Layer
  | [], l => some l
  | k :: ks, .table _ es => (es.lookup k).bind (at? ks)
  | _ :: _, _ => none

/-- There is nothing but tables on the way along a path. -/
def Opens : List String → Layer → Prop
  | [], _ => True
  | k :: ks, .table _ es => ∀ v, es.lookup k = some v → Opens ks v
  | _ :: _, _ => False

/-- A layer with parts that have names. -/
def isTable : Layer → Bool
  | .table .. => true
  | _ => false

def isList : Layer → Bool
  | .list .. => true
  | _ => false

theorem eq_table {l : Layer} (h : l.isTable = true) : ∃ s es, l = .table s es := by
  cases l with
  | table s es => exact ⟨s, es, rfl⟩
  | leaf | list => cases h

mutual

/-- The entries of all tables are in order. -/
def Ordered : Layer → Prop
  | .table _ es => Entries.Ordered es ∧ OrderedEntries es
  | _ => True

def OrderedEntries : List (String × Layer) → Prop
  | [] => True
  | (_, v) :: rest => Ordered v ∧ OrderedEntries rest

end

theorem orderedEntries_iff {es : List (String × Layer)} :
    OrderedEntries es ↔ ∀ e ∈ es, Ordered e.2 := by
  induction es with
  | nil => simp [OrderedEntries]
  | cons e es ih => simp [OrderedEntries, ih]

/-! ## Paths -/

theorem at?_nil (l : Layer) : l.at? [] = some l := by
  cases l <;> rfl

@[simp] theorem at?_cons_table (k : String) (ks : List String) (s : Source)
    (es : List (String × Layer)) :
    (table s es).at? (k :: ks) = (es.lookup k).bind (at? ks) := rfl

theorem at?_append (ks ks' : List String) (l : Layer) :
    l.at? (ks ++ ks') = (l.at? ks).bind (at? ks') := by
  induction ks generalizing l with
  | nil => rw [List.nil_append, at?_nil, Option.bind_some]
  | cons k ks ih =>
    cases l with
    | leaf | list => rfl
    | table s es =>
      rw [List.cons_append, at?_cons_table, at?_cons_table]
      cases es.lookup k with
      | none => rfl
      | some v => exact ih v

theorem at?_concat_of_table {L : Layer} {place : List String} {s : Source}
    {es : List (String × Layer)} (h : L.at? place = some (.table s es)) (k : String) :
    L.at? (place ++ [k]) = es.lookup k := by
  rw [at?_append, h, Option.bind_some, at?_cons_table]
  cases es.lookup k with
  | none => rfl
  | some v => exact at?_nil v

theorem at?_concat_of_none {L : Layer} {place : List String} (h : L.at? place = none)
    (k : String) : L.at? (place ++ [k]) = none := by
  rw [at?_append, h, Option.bind_none]

/-- A way is open if whatever stands above its end is a table. -/
theorem opens_of_forall_isTable {path : List String} {l : Layer}
    (h : ∀ above k below, path = above ++ k :: below → ∀ v, l.at? above = some v →
      v.isTable = true) : l.Opens path := by
  induction path generalizing l with
  | nil => cases l <;> trivial
  | cons k ks ih =>
    obtain ⟨s, es, rfl⟩ := eq_table (h [] k ks rfl l (at?_nil l))
    intro v hv
    apply ih
    intro above k' below heq w hw
    refine h (k :: above) k' below (by rw [heq, List.cons_append]) w ?_
    rw [at?_cons_table, hv, Option.bind_some, hw]

/-! ## Order -/

theorem Ordered.of_get? {k : String} {v : Layer} {s : Source} {es : List (String × Layer)}
    (h : Ordered (.table s es)) (hv : es.lookup k = some v) : v.Ordered :=
  orderedEntries_iff.1 h.2 (k, v) (Entries.mem_of_lookup hv)

theorem Ordered.at? {path : List String} {l v : Layer} (h : l.Ordered)
    (hv : l.at? path = some v) : v.Ordered := by
  induction path generalizing l with
  | nil =>
    rw [at?_nil] at hv
    cases hv
    exact h
  | cons k ks ih =>
    cases l with
    | leaf | list => cases hv
    | table s es =>
      rw [at?_cons_table] at hv
      obtain ⟨w, hw, hv⟩ := Option.bind_eq_some_iff.1 hv
      exact ih (h.of_get? hw) hv

theorem orderedEntries_insert {k : String} {v : Layer} {es : List (String × Layer)}
    (hv : v.Ordered) (hes : OrderedEntries es) : OrderedEntries (Entries.insert k v es) := by
  apply orderedEntries_iff.2
  intro e he
  rcases Entries.mem_insert he with rfl | he
  · exact hv
  · exact orderedEntries_iff.1 hes e he

theorem ordered_ofList (s : Source) {es : List (String × Layer)} (h : ∀ e ∈ es, e.2.Ordered) :
    (table s (Entries.ofList es)).Ordered := by
  refine ⟨Entries.ordered_ofList es, ?_⟩
  suffices hacc : ∀ acc : List (String × Layer), OrderedEntries acc →
      OrderedEntries (es.foldl (fun acc (k, v) => Entries.insert k v acc) acc) from
    hacc [] trivial
  induction es with
  | nil => exact fun acc hacc => hacc
  | cons e es ih =>
    intro acc hacc
    exact ih (fun e he => h e (List.mem_cons_of_mem _ he)) _
      (orderedEntries_insert (h e List.mem_cons_self) hacc)

mutual

/-- Laid over each other, ordered layers stay ordered. -/
theorem ordered_merge {lower : Layer} (hl : lower.Ordered) :
    (upper : Layer) → upper.Ordered → (lower.merge upper).Ordered
  | .leaf .., _ => trivial
  | .list .., _ => trivial
  | .table s entries, hu => by
    cases lower with
    | leaf | list => exact hu
    | table s' below => exact ordered_mergeEntries hl.1 hl.2 entries hu.2

theorem ordered_mergeEntries {below : List (String × Layer)} (hb : Entries.Ordered below)
    (hbs : OrderedEntries below) : (above : List (String × Layer)) → OrderedEntries above →
    Entries.Ordered (mergeEntries below above) ∧ OrderedEntries (mergeEntries below above)
  | [], _ => ⟨hb, hbs⟩
  | (k, v) :: rest, ha => by
    rw [mergeEntries]
    refine ordered_mergeEntries (Entries.ordered_insert k _ hb) (orderedEntries_insert ?_ hbs)
      rest ha.2
    cases hget : below.lookup k with
    | none => exact ha.1
    | some l =>
      have hl : l.Ordered := orderedEntries_iff.1 hbs (k, l) (Entries.mem_of_lookup hget)
      exact ordered_merge hl v ha.1

end

/-! ## Merging -/

/-- What merged tables hold at a key. -/
theorem lookup_mergeEntries {above : List (String × Layer)} (h : Entries.Ordered above)
    (below : List (String × Layer)) (k : String) :
    (mergeEntries below above).lookup k =
      match above.lookup k with
      | none => below.lookup k
      | some v => some (match below.lookup k with
        | some l => l.merge v
        | none => v) := by
  induction above generalizing below with
  | nil => rfl
  | cons e above ih =>
    obtain ⟨k', v⟩ := e
    rw [mergeEntries, ih h.tail]
    by_cases hk : k = k'
    · subst hk
      cases below.lookup k <;>
        rw [h.lookup_head, List.lookup_cons_self, Entries.lookup_insert, if_pos rfl]
    · rw [Entries.lookup_cons_of_ne hk]
      simp only [Entries.lookup_insert, if_neg hk]

/-- What a merged layer says at a path that the upper layer leaves open. -/
theorem at?_merge {upper : Layer} {path : List String} (hu : upper.Ordered)
    (hopen : upper.Opens path) (lower : Layer) :
    (lower.merge upper).at? path =
      match upper.at? path with
      | none => lower.at? path
      | some v => some (match lower.at? path with
        | some l => l.merge v
        | none => v) := by
  induction path generalizing lower upper with
  | nil => simp only [at?_nil]
  | cons k ks ih =>
    cases upper with
    | leaf | list => cases hopen
    | table s es =>
      cases lower with
      | leaf | list =>
        simp only [merge]
        cases (table s es).at? (k :: ks) <;> rfl
      | table s' below =>
        simp only [merge, at?_cons_table]
        rw [lookup_mergeEntries hu.1]
        cases hv : es.lookup k with
        | none => rfl
        | some v =>
          cases hl : below.lookup k with
          | none =>
            simp only [Option.bind_some, Option.bind_none]
            cases v.at? ks <;> rfl
          | some l => exact ih (hu.of_get? hv) (hopen v hv) l

/-- A value without parts in the upper layer hides the lower one at its path, and only there. -/
theorem at?_merge_of_value {upper : Layer} {path : List String} (hu : upper.Ordered)
    (hopen : upper.Opens path) (hvalue : ∀ v, upper.at? path = some v → v.isTable = false)
    (lower : Layer) :
    (lower.merge upper).at? path = (upper.at? path).or (lower.at? path) := by
  rw [at?_merge hu hopen]
  cases hv : upper.at? path with
  | none => rfl
  | some v =>
    simp only [Option.some_or, Option.some.injEq]
    cases lower.at? path with
    | none => rfl
    | some l =>
      cases v with
      | table => cases hvalue _ hv
      | leaf | list => rfl

/-- Where two layers have nothing but tables, they have tables together. -/
theorem isTable_merge {lower upper : Layer} {path : List String} (hu : upper.Ordered)
    (hopen : upper.Opens path) (hl : ∀ v, lower.at? path = some v → v.isTable = true)
    (ht : ∀ v, upper.at? path = some v → v.isTable = true) :
    ∀ v, (lower.merge upper).at? path = some v → v.isTable = true := by
  intro v hv
  rw [at?_merge hu hopen] at hv
  cases hupper : upper.at? path with
  | none =>
    rw [hupper] at hv
    exact hl v hv
  | some w =>
    rw [hupper] at hv
    obtain ⟨s, es, rfl⟩ := eq_table (ht w hupper)
    cases hv
    cases lower.at? path with
    | none => rfl
    | some l => cases l <;> rfl

/-! ## Where a value comes from -/

/-- A merged layer has the source and the form of the upper one. -/
theorem source_merge (lower upper : Layer) : (lower.merge upper).source = upper.source := by
  cases upper with
  | leaf | list => rfl
  | table => cases lower <;> rfl

theorem isTable_merge_eq (lower upper : Layer) : (lower.merge upper).isTable = upper.isTable := by
  cases upper with
  | leaf | list => rfl
  | table => cases lower <;> rfl

theorem isList_merge (lower upper : Layer) : (lower.merge upper).isList = upper.isList := by
  cases upper with
  | leaf | list => rfl
  | table => cases lower <;> rfl

/-- Whatever merged layers say was said by the upper one, perhaps of something below it, or else by
the lower one alone. -/
theorem said_of_merge {upper : Layer} (hu : upper.Ordered) {lower : Layer} {path : List String}
    {v : Layer} (h : (lower.merge upper).at? path = some v) :
    (∃ u, upper.at? path = some u ∧ (v = u ∨ ∃ l : Layer, v = l.merge u)) ∨
      (upper.at? path = none ∧ lower.at? path = some v) := by
  induction path generalizing lower upper with
  | nil =>
    rw [at?_nil] at h
    cases h
    exact .inl ⟨upper, at?_nil upper, .inr ⟨lower, rfl⟩⟩
  | cons k ks ih =>
    cases upper with
    | leaf | list => cases h
    | table s es =>
      cases lower with
      | leaf | list => exact .inl ⟨v, h, .inl rfl⟩
      | table s' below =>
        simp only [merge, at?_cons_table] at h ⊢
        rw [lookup_mergeEntries hu.1] at h
        cases hv : es.lookup k with
        | none =>
          rw [hv] at h
          exact .inr ⟨rfl, h⟩
        | some u =>
          rw [hv] at h
          cases hl : below.lookup k with
          | none =>
            rw [hl] at h
            exact .inl ⟨v, h, .inl rfl⟩
          | some l =>
            rw [hl] at h
            exact ih (hu.of_get? hv) h

/-- Every value of the layer comes from the source. -/
def From (s : Source) (L : Layer) : Prop := ∀ path v, L.at? path = some v → v.source = s

variable {s : Source}

theorem from_leaf (s : Source) (v : Leaf) : (leaf s v).From s := by
  intro path w hw
  cases path <;> cases hw
  rfl

theorem from_list (s : Source) (vs : List Layer) : (list s vs).From s := by
  intro path w hw
  cases path <;> cases hw
  rfl

theorem from_table {es : List (String × Layer)} (h : ∀ e ∈ es, e.2.From s) :
    (table s es).From s := by
  intro path v hv
  cases path with
  | nil =>
    cases hv
    rfl
  | cons k ks =>
    rw [at?_cons_table] at hv
    obtain ⟨w, hw, hv⟩ := Option.bind_eq_some_iff.1 hv
    exact h (k, w) (Entries.mem_of_lookup hw) ks v hv

theorem From.merge {lower upper : Layer} (hl : lower.From s) (hf : upper.From s)
    (hu : upper.Ordered) : (lower.merge upper).From s := by
  intro path v hv
  rcases said_of_merge hu hv with ⟨u, hsaid, rfl | ⟨l, rfl⟩⟩ | ⟨-, hsaid⟩
  · exact hf path v hsaid
  · rw [source_merge]
    exact hf path u hsaid
  · exact hl path v hsaid

end Abacus.Settings.Layer
