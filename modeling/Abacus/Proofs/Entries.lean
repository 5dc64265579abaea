import Abacus.Dict

/-!
# Lists of entries by their answers

An ordered list of entries is fixed by what it answers for every key (`ext_lookup`), so that laws
about dictionaries, layers and documents can be proved one key at a time.
-/

namespace Abacus.Entries

variable {α β : Type}

/-! ## Looking up -/

theorem lookup_cons_of_ne {k k' : String} (h : k ≠ k') (v : α) (es : List (String × α)) :
    ((k', v) :: es).lookup k = es.lookup k := by
  rw [lookup_cons, if_neg h]

theorem mem_of_lookup {k : String} {v : α} {es : List (String × α)} (h : es.lookup k = some v) :
    (k, v) ∈ es := by
  obtain ⟨before, behind, rfl, -⟩ := List.lookup_eq_some_iff.1 h
  exact List.mem_append_right _ List.mem_cons_self

theorem lookup_map (f : α → β) (k : String) (es : List (String × α)) :
    (es.map fun e => (e.1, f e.2)).lookup k = (es.lookup k).map f := by
  induction es with
  | nil => rfl
  | cons e es ih =>
    obtain ⟨k', v⟩ := e
    by_cases hk : k = k'
    · subst hk
      simp
    · rw [List.map_cons, lookup_cons_of_ne hk, lookup_cons_of_ne hk, ih]

/-! ## Order -/

theorem Ordered.tail {e : String × α} {es : List (String × α)} (h : Ordered (e :: es)) :
    Ordered es :=
  (List.pairwise_cons.1 h).2

theorem Ordered.head_lt {e : String × α} {es : List (String × α)} (h : Ordered (e :: es)) :
    ∀ e' ∈ es, e.1 < e'.1 :=
  (List.pairwise_cons.1 h).1

/-- A key below the first one is not there. -/
theorem Ordered.lookup_eq_none_of_lt {k : String} {e : String × α} {es : List (String × α)}
    (h : Ordered (e :: es)) (hk : k < e.1) : (e :: es).lookup k = none := by
  refine List.lookup_eq_none_iff.2 fun e' he' => bne_iff_ne.2 ?_
  rintro rfl
  rcases List.mem_cons.1 he' with rfl | he'
  · exact String.lt_irrefl _ hk
  · exact String.lt_irrefl _ (String.lt_trans hk (h.head_lt e' he'))

/-- Every entry of an ordered list is the answer for its key. -/
theorem Ordered.lookup_of_mem {e : String × α} {es : List (String × α)} (h : Ordered es)
    (he : e ∈ es) : es.lookup e.1 = some e.2 := by
  induction es with
  | nil => cases he
  | cons e' es ih =>
    rcases List.mem_cons.1 he with rfl | he
    · exact List.lookup_cons_self
    · have hlt : e'.1 < e.1 := h.head_lt e he
      have hne : e.1 ≠ e'.1 := fun heq => String.lt_irrefl _ (heq ▸ hlt)
      exact (lookup_cons_of_ne hne e'.2 es).trans (ih h.tail he)

theorem Ordered.lookup_head {e : String × α} {es : List (String × α)} (h : Ordered (e :: es)) :
    es.lookup e.1 = none :=
  List.lookup_eq_none_iff.2 fun e' he' => bne_iff_ne.2 fun heq =>
    String.lt_irrefl _ (heq ▸ h.head_lt e' he')

/-- An ordered list of entries is fixed by its answers. -/
theorem ext_lookup {as bs : List (String × α)} (ha : Ordered as) (hb : Ordered bs)
    (h : ∀ k, as.lookup k = bs.lookup k) : as = bs := by
  induction as generalizing bs with
  | nil =>
    cases bs with
    | nil => rfl
    | cons b bs =>
      have hb' := h b.1
      rw [List.lookup_nil, List.lookup_cons_self] at hb'
      cases hb'
  | cons a as ih =>
    cases bs with
    | nil =>
      have ha' := h a.1
      rw [List.lookup_nil, List.lookup_cons_self] at ha'
      cases ha'
    | cons b bs =>
      -- The smaller of the two first keys would have no answer on the other side.
      have hkey : a.1 = b.1 := by
        refine String.le_antisymm (String.not_lt.1 fun hlt => ?_) (String.not_lt.1 fun hlt => ?_)
        · have hb' := h b.1
          rw [ha.lookup_eq_none_of_lt hlt, List.lookup_cons_self] at hb'
          cases hb'
        · have ha' := h a.1
          rw [hb.lookup_eq_none_of_lt hlt, List.lookup_cons_self] at ha'
          cases ha'
      obtain ⟨k, v⟩ := a
      obtain ⟨k', w⟩ := b
      simp only at hkey
      subst hkey
      have hv := h k
      rw [List.lookup_cons_self, List.lookup_cons_self] at hv
      cases hv
      refine congrArg _ (ih ha.tail hb.tail fun k' => ?_)
      by_cases hk : k' = k
      · subst hk
        exact ha.lookup_head.trans hb.lookup_head.symm
      · have hk' := h k'
        rwa [lookup_cons_of_ne hk, lookup_cons_of_ne hk] at hk'

/-! ## Writing -/

/-- Of two values written at one key the second one stays. -/
theorem insert_insert (k : String) (v w : α) (es : List (String × α)) :
    insert k v (insert k w es) = insert k v es := by
  induction es with
  | nil => simp [insert]
  | cons e es ih =>
    obtain ⟨k', v'⟩ := e
    by_cases hlt : k < k'
    · simp [insert, hlt]
    · by_cases heq : k = k'
      · simp [insert, heq]
      · simp [insert, hlt, heq, ih]

theorem insert_of_forall_lt {k : String} (v : α) {es : List (String × α)}
    (h : ∀ e ∈ es, e.1 < k) : insert k v es = es ++ [(k, v)] := by
  induction es with
  | nil => rfl
  | cons e es ih =>
    obtain ⟨k', v'⟩ := e
    have hk : k' < k := h (k', v') List.mem_cons_self
    have hne : k ≠ k' := fun heq => String.lt_irrefl _ (heq ▸ hk)
    simp [insert, String.lt_asymm hk, hne, ih fun e he => h e (List.mem_cons_of_mem _ he)]

/-- Entries that are in order are written one behind the other. -/
theorem foldl_insert_of_ordered {acc es : List (String × α)} (h : Ordered (acc ++ es)) :
    es.foldl (fun acc e => insert e.1 e.2 acc) acc = acc ++ es := by
  induction es generalizing acc with
  | nil => simp
  | cons e es ih =>
    have hlast : insert e.1 e.2 acc = acc ++ [e] :=
      insert_of_forall_lt e.2 fun e' he' =>
        (List.pairwise_append.1 h).2.2 e' he' e List.mem_cons_self
    rw [List.foldl_cons, hlast, ih (by simpa using h)]
    simp

theorem ofList_of_ordered {es : List (String × α)} (h : Ordered es) : ofList es = es :=
  foldl_insert_of_ordered (show Ordered ([] ++ es) from h)

theorem insert_map (f : α → β) (k : String) (v : α) (es : List (String × α)) :
    insert k (f v) (es.map fun e => (e.1, f e.2)) =
      (insert k v es).map fun e => (e.1, f e.2) := by
  induction es with
  | nil => rfl
  | cons e es ih =>
    obtain ⟨k', v'⟩ := e
    by_cases hlt : k < k'
    · simp [insert, hlt]
    · by_cases heq : k = k' <;> simp [insert, hlt, heq, ih]

theorem ofList_map (f : α → β) (es : List (String × α)) :
    ofList (es.map fun e => (e.1, f e.2)) = (ofList es).map fun e => (e.1, f e.2) := by
  suffices h : ∀ acc : List (String × α),
      (es.map fun e => (e.1, f e.2)).foldl (fun acc e => insert e.1 e.2 acc)
          (acc.map fun e => (e.1, f e.2)) =
        (es.foldl (fun acc e => insert e.1 e.2 acc) acc).map fun e => (e.1, f e.2) from h []
  induction es with
  | nil => exact fun acc => rfl
  | cons e es ih =>
    obtain ⟨k, v⟩ := e
    intro acc
    rw [List.map_cons, List.foldl_cons, List.foldl_cons]
    simp only [insert_map]
    exact ih _

theorem mem_of_mem_ofList {es : List (String × α)} {e : String × α} (h : e ∈ ofList es) :
    e ∈ es := by
  suffices hacc : ∀ acc : List (String × α),
      e ∈ es.foldl (fun acc e => insert e.1 e.2 acc) acc → e ∈ acc ∨ e ∈ es from
    (hacc [] h).resolve_left List.not_mem_nil
  clear h
  induction es with
  | nil => exact fun acc h => .inl h
  | cons e' es ih =>
    intro acc h
    rcases ih _ h with h | h
    · rcases mem_insert h with rfl | h
      · exact .inr List.mem_cons_self
      · exact .inl h
    · exact .inr (List.mem_cons_of_mem _ h)

/-! ## Keys that stand once -/

theorem map_fst_map (f : α → β) (es : List (String × α)) :
    (es.map fun e => (e.1, f e.2)).map Prod.fst = es.map Prod.fst := by
  rw [List.map_map]
  rfl

theorem Ordered.nodup {es : List (String × α)} (h : Ordered es) : (es.map Prod.fst).Nodup := by
  refine List.pairwise_map.2 (List.Pairwise.imp ?_ h)
  intro a b hlt heq
  rw [heq] at hlt
  exact String.lt_irrefl _ hlt

theorem lookup_eq_some_iff_mem {es : List (String × α)} (h : (es.map Prod.fst).Nodup) {k : String}
    {v : α} : es.lookup k = some v ↔ (k, v) ∈ es := by
  refine ⟨mem_of_lookup, fun hmem => ?_⟩
  induction es with
  | nil => cases hmem
  | cons e es ih =>
    obtain ⟨k', v'⟩ := e
    obtain ⟨hhead, htail⟩ := List.nodup_cons.1 h
    rcases List.mem_cons.1 hmem with heq | hmem
    · cases heq
      exact List.lookup_cons_self
    · have hne : k ≠ k' := fun heq => hhead (List.mem_map.2 ⟨(k, v), hmem, heq⟩)
      exact (lookup_cons_of_ne hne v' es).trans (ih htail hmem)

theorem lookup_ofList {es : List (String × α)} (h : (es.map Prod.fst).Nodup) (k : String) :
    (ofList es).lookup k = es.lookup k := by
  suffices hacc : ∀ acc : List (String × α),
      (es.foldl (fun acc e => insert e.1 e.2 acc) acc).lookup k = (es.lookup k).or (acc.lookup k) from
    (hacc []).trans Option.or_none
  induction es with
  | nil => exact fun acc => rfl
  | cons e es ih =>
    obtain ⟨k', v⟩ := e
    obtain ⟨hhead, htail⟩ := List.nodup_cons.1 h
    intro acc
    rw [List.foldl_cons, ih htail, lookup_insert]
    by_cases hk : k = k'
    · subst hk
      have hnone : es.lookup k = none :=
        List.lookup_eq_none_iff.2 fun e he => bne_iff_ne.2 fun heq =>
          hhead (List.mem_map.2 ⟨e, he, heq.symm⟩)
      rw [hnone, if_pos rfl, List.lookup_cons_self]
      rfl
    · rw [if_neg hk, lookup_cons_of_ne hk]

/-- The order in which entries arrive does not matter as long as no key stands twice. -/
theorem ofList_of_perm {es es' : List (String × α)} (h : es.Perm es') (ho : Ordered es') :
    ofList es = es' := by
  have hnodup : (es.map Prod.fst).Nodup := (h.map Prod.fst).nodup_iff.2 ho.nodup
  apply ext_lookup (ordered_ofList es) ho
  intro k
  rw [lookup_ofList hnodup]
  apply Option.ext
  intro v
  rw [lookup_eq_some_iff_mem hnodup, lookup_eq_some_iff_mem ho.nodup, h.mem_iff]

end Abacus.Entries
