import Abacus.Json.Record
import Abacus.Proofs.Json.Drafts

/-!
# Records survive writing

A record that was written as an object is read field by field. A field that belongs to the record and
passes its check is taken, unless it was taken before, and one that is unknown is passed over if its
value is intact (`Shape.readFields_of_known`). So a record is taken as a whole if all fields are of
the first kind (`Shape.read_ofValue`); its values are then the drafts of what was written.

The readers of single values follow: integers of a fixed width, variants and texts.
-/

namespace Abacus.Json

theorem Draft.ofFields_eq (fields : List (String × Value)) :
    Draft.ofFields fields = fields.map fun p => (.str p.1, Draft.ofValue p.2) := by
  induction fields with
  | nil => rfl
  | cons p fields ih =>
    obtain ⟨k, v⟩ := p
    rw [Draft.ofFields, ih]
    rfl

namespace Shape

/-- The field belongs to the record and passes its check. -/
def Accepts (s : Shape) (p : String × Draft) : Prop :=
  ∃ field, s.fields.find? (·.name = p.1) = some field ∧ field.check p.2 = .ok ()

/-- A field is accepted if its reader reads the value. -/
theorem accepts_of_ok {α : Type} {s : Shape} {name : String} {read : Reader α} {d : Draft} {a : α}
    (hfield : s.fields.find? (·.name = name) = some ⟨name, Reader.check read⟩)
    (h : read d = .ok a) : s.Accepts (name, d) := by
  refine ⟨_, hfield, ?_⟩
  change (read d).map _ = _
  rw [h]
  rfl

/-- The field is none of the record's, and its value is intact. -/
def Skips (s : Shape) (p : String × Draft) : Prop :=
  s.fields.find? (·.name = p.1) = none ∧ p.2.intact = true

/-- The record has a field of that name. -/
def knows (s : Shape) (p : String × Draft) : Bool := (s.fields.find? (·.name = p.1)).isSome

theorem Accepts.knows {s : Shape} {p : String × Draft} (h : s.Accepts p) : s.knows p = true := by
  obtain ⟨field, hfield, -⟩ := h
  rw [Shape.knows, hfield]
  rfl

/-- Of the fields of an object those that belong to the record are taken. -/
theorem readFields_of_known {s : Shape} {fields : List (String × Draft)}
    (h : ∀ p ∈ fields, s.Accepts p ∨ s.Skips p) (taken : Values)
    (hnodup : ((taken ++ fields.filter s.knows).map Prod.fst).Nodup) :
    s.readFields true taken (fields.map fun p => (.str p.1, p.2)) =
      .ok (taken ++ fields.filter s.knows) := by
  induction fields generalizing taken with
  | nil => rw [List.filter_nil, List.append_nil]; rfl
  | cons p fields ih =>
    obtain ⟨key, d⟩ := p
    have htail := fun p hp => h p (List.mem_cons_of_mem _ hp)
    rcases h (key, d) List.mem_cons_self with haccepts | ⟨hunknown, hintact⟩
    · rw [List.filter_cons_of_pos haccepts.knows] at hnodup ⊢
      obtain ⟨field, hfield, hcheck⟩ := haccepts
      have hfresh : (taken.lookup key).isSome = false := by
        rw [Option.isSome_eq_false_iff, Option.isNone_iff_eq_none, List.lookup_eq_none_iff]
        intro p hp
        have hne : p.1 ≠ key := by
          rw [List.map_append, List.nodup_append] at hnodup
          exact hnodup.2.2 p.1 (List.mem_map_of_mem hp) key (by simp)
        simpa using Ne.symm hne
      have hrest := ih htail (taken ++ [(key, d)]) (by simpa using hnodup)
      rw [List.map_cons, readFields]
      simp only [hfield, hfresh, hcheck]
      rw [List.append_assoc] at hrest
      exact hrest
    · have hnot : ¬s.knows (key, d) = true := by
        rw [knows, hunknown]
        exact Bool.false_ne_true
      rw [List.filter_cons_of_neg hnot] at hnodup ⊢
      rw [List.map_cons, readFields]
      simp only [hunknown, hintact, if_true]
      exact ih htail taken hnodup

theorem readFields_of_accepts {s : Shape} {fields : List (String × Draft)}
    (haccepts : ∀ p ∈ fields, s.Accepts p) (taken : Values)
    (hnodup : ((taken ++ fields).map Prod.fst).Nodup) :
    s.readFields true taken (fields.map fun p => (.str p.1, p.2)) = .ok (taken ++ fields) := by
  have hall : fields.filter s.knows = fields :=
    List.filter_eq_self.2 fun p hp => (haccepts p hp).knows
  have hread := readFields_of_known (fun p hp => .inl (haccepts p hp)) taken
    (by rw [hall]; exact hnodup)
  rwa [hall] at hread

/-- A written record is read with all its fields. -/
theorem read_ofValue {s : Shape} {fields : List (String × Value)}
    (haccepts : ∀ p ∈ fields, s.Accepts (p.1, Draft.ofValue p.2))
    (hnodup : (fields.map Prod.fst).Nodup) :
    s.read (Draft.ofValue (.obj fields)) =
      .ok (fields.map fun p => (p.1, Draft.ofValue p.2)) := by
  have hread := @readFields_of_accepts s (fields.map fun p => (p.1, Draft.ofValue p.2))
    (fun p hp => by
      obtain ⟨q, hq, rfl⟩ := List.mem_map.1 hp
      exact haccepts q hq) [] (by simpa [Function.comp_def] using hnodup)
  rw [List.map_map, List.nil_append] at hread
  rw [Draft.ofValue, Draft.ofFields_eq]
  exact hread

end Shape

/-! ## Single values -/

namespace Reader

theorem optional_of_ok {α : Type} {read : Reader α} {d : Draft} {a : α} (hd : d ≠ .null)
    (h : read d = .ok a) : optional read d = .ok (some a) := by
  unfold optional
  split
  next => exact absurd rfl hd
  next => rw [h]; rfl

theorem integer_of_le (expected : String) {least greatest n : Int} (hlow : least ≤ n)
    (hhigh : n ≤ greatest) : integer expected least greatest (.int n) = .ok n :=
  if_pos ⟨hlow, hhigh⟩

theorem uint8_ofValue (n : UInt8) : uint8 (Draft.ofValue (.nat n.toNat)) = .ok n := by
  have hhigh := n.toNat_lt
  rw [Value.nat, Draft.ofValue, uint8, integer_of_le _ (by omega) (by omega)]
  exact congrArg Except.ok UInt8.ofNat_toNat

theorem size_ofValue (n : UInt64) : size (Draft.ofValue (.nat n.toNat)) = .ok n := by
  have hhigh := n.toNat_lt
  rw [Value.nat, Draft.ofValue, size, integer_of_le _ (by omega) (by omega)]
  exact congrArg Except.ok UInt64.ofNat_toNat

theorem variant_ofValue {α : Type} {variants : List (String × α)} {name : String} {a : α}
    (h : variants.lookup name = some a) :
    variant variants (Draft.ofValue (.str name)) = .ok a := by
  rw [Draft.ofValue, variant, named, h]

theorem anything_ofValue {v : Value} (h : v.Readable) {depth : Nat} (hdepth : v.depth ≤ depth) :
    anything depth (Draft.ofValue v) = .ok v.reread := by
  rw [anything, Draft.value?_ofValue v h depth hdepth]

end Reader

/-- A written document is decoded as what its draft is read as. -/
theorem decode_pretty {α : Type} {read : Reader α} {v : Value} {a : α} (h : v.Readable)
    (hread : read (Draft.ofValue v) = .ok a) : decode read v.pretty = .ok a := by
  rw [decode, read_pretty h]
  simp only [hread]
  rfl

end Abacus.Json
