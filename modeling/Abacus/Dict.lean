/-!
# Ordered dictionaries

A finite map from texts to values, kept as a list of entries in strictly increasing order of the
key. Texts are ordered by code point, which is also the order of their UTF-8 bytes.

The order is part of the type, so two dictionaries with the same answers are the same list: what a
dictionary prints never depends on the order in which its entries arrived. Writing a key that is
already there replaces its value, so of repeated keys the last one wins.
-/

namespace Abacus

/-! ## Entry lists -/

namespace Entries

variable {α : Type}

/-- Writes `v` at `k` in a list of entries ordered by key. -/
def insert (k : String) (v : α) : List (String × α) → List (String × α)
  | [] => [(k, v)]
  | (k', v') :: rest =>
    if k < k' then (k, v) :: (k', v') :: rest
    else if k = k' then (k, v) :: rest
    else (k', v') :: insert k v rest

/-- The entries in key order, the last value of each key kept. -/
def ofList (entries : List (String × α)) : List (String × α) :=
  entries.foldl (fun acc (k, v) => insert k v acc) []

/-- The keys increase strictly. -/
def Ordered (entries : List (String × α)) : Prop := entries.Pairwise fun a b => a.1 < b.1

/-- The rule of `List.lookup_cons`, with the equality of keys decided. -/
theorem lookup_cons (k k' : String) (v : α) (entries : List (String × α)) :
    ((k', v) :: entries).lookup k = if k = k' then some v else entries.lookup k := by
  by_cases hk : k = k'
  · rw [if_pos hk, hk, List.lookup_cons_self]
  · rw [if_neg hk, List.lookup_cons, beq_false_of_ne hk]

theorem lookup_insert (k k' : String) (v : α) (entries : List (String × α)) :
    (insert k v entries).lookup k' = if k' = k then some v else entries.lookup k' := by
  induction entries with
  | nil => exact lookup_cons k' k v []
  | cons e rest ih =>
    obtain ⟨k₁, v₁⟩ := e
    by_cases hlt : k < k₁
    · simp only [insert, hlt, if_true, lookup_cons]
    · by_cases heq : k = k₁
      · subst heq
        by_cases hk : k' = k <;> simp [insert, lookup_cons, hk]
      · by_cases hk : k' = k₁
        · simp [insert, hlt, heq, hk, Ne.symm heq]
        · simp [insert, hlt, heq, lookup_cons, hk, ih]

theorem mem_insert {k : String} {v : α} {entries : List (String × α)} {e : String × α}
    (h : e ∈ insert k v entries) : e = (k, v) ∨ e ∈ entries := by
  induction entries with
  | nil => simpa [insert] using h
  | cons f rest ih =>
    obtain ⟨k', v'⟩ := f
    simp only [insert] at h
    split at h
    · simpa using h
    · split at h
      · rcases List.mem_cons.1 h with h | h
        · exact .inl h
        · exact .inr (List.mem_cons_of_mem _ h)
      · rcases List.mem_cons.1 h with h | h
        · exact .inr (h ▸ List.mem_cons_self)
        · exact (ih h).imp_right (List.mem_cons_of_mem _)

theorem ordered_insert (k : String) (v : α) {entries : List (String × α)} (h : Ordered entries) :
    Ordered (insert k v entries) := by
  induction entries with
  | nil => simp [insert, Ordered]
  | cons e rest ih =>
    obtain ⟨k', v'⟩ := e
    obtain ⟨hhead, htail⟩ := List.pairwise_cons.1 h
    by_cases hlt : k < k'
    · simp only [insert, hlt, if_true]
      refine List.pairwise_cons.2 ⟨fun f hf => ?_, h⟩
      rcases List.mem_cons.1 hf with rfl | hf
      · exact hlt
      · exact String.lt_trans hlt (hhead f hf)
    · by_cases heq : k = k'
      · subst heq
        simp only [insert, hlt, if_false, if_true]
        exact List.pairwise_cons.2 ⟨hhead, htail⟩
      · simp only [insert, hlt, heq, if_false]
        refine List.pairwise_cons.2 ⟨fun f hf => ?_, ih htail⟩
        rcases mem_insert hf with rfl | hf
        · have hle : k' ≤ k := String.not_lt.1 hlt
          by_cases hlt' : k' < k
          · exact hlt'
          · exact absurd (String.le_antisymm (String.not_lt.1 hlt') hle) heq
        · exact hhead f hf

theorem ordered_ofList (entries : List (String × α)) : Ordered (ofList entries) := by
  suffices h : ∀ acc : List (String × α), Ordered acc →
      Ordered (entries.foldl (fun acc (k, v) => insert k v acc) acc) from h [] (by simp [Ordered])
  induction entries with
  | nil => exact fun acc h => h
  | cons e rest ih => exact fun acc h => ih _ (ordered_insert e.1 e.2 h)

end Entries

/-! ## Dictionaries -/

/-- A finite map from texts to values of `α`, ordered by key. -/
structure Dict (α : Type) where
  entries : List (String × α)
  ordered : Entries.Ordered entries

namespace Dict

variable {α : Type}

instance [DecidableEq α] : DecidableEq (Dict α) := fun a b =>
  decidable_of_iff (a.entries = b.entries) (by cases a; cases b; simp)

/-- The dictionary without entries. -/
def empty : Dict α := ⟨[], List.Pairwise.nil⟩

/-- The value at `k`, if there is one. -/
def get? (d : Dict α) (k : String) : Option α := d.entries.lookup k

/-- The dictionary of a list of entries: of repeated keys the last one wins. -/
def ofList (entries : List (String × α)) : Dict α :=
  ⟨Entries.ofList entries, Entries.ordered_ofList entries⟩

/-- The entries in key order. -/
def toList (d : Dict α) : List (String × α) := d.entries

@[ext] theorem ext_entries {a b : Dict α} (h : a.entries = b.entries) : a = b := by
  cases a; cases b; simpa using h

end Dict

end Abacus
