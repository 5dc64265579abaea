import Abacus.Proofs.Json.Records
import Mathlib.Data.List.Nodup

/-!
# The texts of a record

A record has many texts (`RecordText`): an object with its fields in any order among any others, or
an array of its first fields, with anything left out that has its default. What each field may look
like is said by a `Slot`.

Whichever text it is, the reader of records takes it, and hands on for each field either what was
read of a text that shows it or nothing at all, if it was left out (`Reads.record`). So a reader
that falls back on a default gets the value of the field if, whenever it is left out, that default
is the value (`Slot.Holds.getD`).
-/

namespace Abacus.Json

/-! ## Texts -/

/-- A field of a record with a value. -/
structure Slot where
  name : String
  /-- The texts that show the value. -/
  Shown : List Char → Prop
  /-- The value is the default. -/
  Spare : Prop

/-- A field of an object, with the name that its key spells. -/
structure Entry where
  name : String
  key : List Char
  value : List Char

/-- Fields of an object that show a record. -/
structure ShownIn (slots : List Slot) (entries : List Entry) : Prop where
  key : ∀ e ∈ entries, Quotes e.name e.key
  /-- What has the name of a field shows it; ... -/
  known : ∀ e ∈ entries, ∀ x ∈ slots, x.name = e.name → x.Shown e.value
  /-- ... what has another name only has to be well formed. -/
  unknown : ∀ e ∈ entries, (∀ x ∈ slots, x.name ≠ e.name) → WellFormed e.value
  /-- No field stands there twice, ... -/
  once : ((entries.map Entry.name).filter (· ∈ slots.map Slot.name)).Nodup
  /-- ... and what is missing is spare. -/
  missing : ∀ x ∈ slots, (∀ e ∈ entries, e.name ≠ x.name) → x.Spare

/-- A text that shows a record. -/
inductive RecordText (slots : List Slot) : List Char → Prop
  | object {entries : List Entry} {cs : List Char} : ShownIn slots entries →
      ObjectText (entries.map fun e => (e.key, e.value)) cs → RecordText slots cs
  /-- The first fields in order; those behind them are spare. -/
  | array {front back : List Slot} {items : List (List Char)} {cs : List Char} :
      slots = front ++ back → List.Forall₂ Slot.Shown front items → (∀ x ∈ back, x.Spare) →
      ArrayText items cs → RecordText slots cs

/-! ## Values -/

/-- The reader takes the text for the value. -/
def Reader.Takes {α : Type} (read : Reader α) (cs : List Char) (a : α) : Prop :=
  ∃ d, Reads cs d ∧ read d = .ok a

theorem Reader.Takes.decode {α : Type} {read : Reader α} {b b' cs : List Char} {a : α} {s : String}
    (h : read.Takes cs a) (hb : Blank b) (hb' : Blank b') (hs : s.toList = b ++ (cs ++ b')) :
    decode read s = .ok a := by
  obtain ⟨d, hd, hread⟩ := h
  rw [Json.decode, read_of_reads hd hb hb' hs]
  simp only [hread]
  rfl

/-- The values of a record as far as the field is concerned. -/
inductive Slot.Holds (x : Slot) (values : Shape.Values) : Prop
  | taken {cs : List Char} {d : Draft} : x.Shown cs → Reads cs d →
      values.lookup x.name = some d → Holds x values
  | missing : x.Spare → values.lookup x.name = none → Holds x values

/-- What is left out is replaced by the default. -/
theorem Slot.Holds.getD {α : Type} {read : Reader α} {x : Slot} {values : Shape.Values}
    {a default : α} (h : x.Holds values) (hread : ∀ cs, x.Shown cs → read.Takes cs a)
    (hdefault : x.Spare → a = default) : values.getD x.name read default = .ok a := by
  cases h with
  | @taken cs d hshown hd hlookup =>
    obtain ⟨d', hd', hvalue⟩ := hread cs hshown
    cases hd.unique hd'
    rw [Shape.Values.getD, hlookup]
    exact hvalue
  | missing hspare hlookup =>
    rw [Shape.Values.getD, hlookup, hdefault hspare]

/-- Values that come from texts of the fields, with nothing but spare ones missing. -/
structure Covers (slots : List Slot) (values : Shape.Values) : Prop where
  taken : ∀ p ∈ values, ∃ x ∈ slots, x.name = p.1 ∧ ∃ cs, x.Shown cs ∧ Reads cs p.2
  missing : ∀ x ∈ slots, x.name ∉ values.map Prod.fst → x.Spare

theorem Covers.holds {slots : List Slot} {values : Shape.Values} (h : Covers slots values)
    (hnodup : (slots.map Slot.name).Nodup) {x : Slot} (hx : x ∈ slots) : x.Holds values := by
  cases hlookup : values.lookup x.name with
  | none =>
    refine .missing (h.missing x hx fun hmem => ?_) hlookup
    obtain ⟨p, hp, hname⟩ := List.mem_map.1 hmem
    have hne := List.lookup_eq_none_iff.1 hlookup p hp
    rw [hname, bne_self_eq_false] at hne
    cases hne
  | some d =>
    obtain ⟨before, behind, hvalues, -⟩ := List.lookup_eq_some_iff.1 hlookup
    obtain ⟨x', hx', hname, cs, hshown, hreads⟩ := h.taken (x.name, d) (by simp [hvalues])
    cases List.inj_on_of_nodup_map hnodup hx' hx hname
    exact .taken hshown hreads hlookup

/-! ## Records -/

/-- The field of a shape that goes with a slot. -/
structure Field.Fits (field : Field) (x : Slot) : Prop where
  name_eq : field.name = x.name
  check : ∀ cs, x.Shown cs → ∃ d, Reads cs d ∧ field.check d = .ok ()

theorem fits_check {α : Type} {read : Reader α} {x : Slot} {name : String} {a : α}
    (hname : name = x.name) (h : ∀ cs, x.Shown cs → read.Takes cs a) :
    Field.Fits ⟨name, Reader.check read⟩ x where
  name_eq := hname
  check cs hcs := by
    obtain ⟨d, hd, hread⟩ := h cs hcs
    refine ⟨d, hd, ?_⟩
    change (read d).map _ = _
    rw [hread]
    rfl

section Record

variable {s : Shape} {slots : List Slot}

theorem exists_of_forall₂ {α β : Type} {R : α → β → Prop} {as : List α} {bs : List β}
    (h : List.Forall₂ R as bs) {a : α} (ha : a ∈ as) : ∃ b ∈ bs, R a b := by
  induction h with
  | nil => cases ha
  | @cons a' b as bs hab _ ih =>
    rcases List.mem_cons.1 ha with rfl | ha
    · exact ⟨b, List.mem_cons_self, hab⟩
    · obtain ⟨b', hb', h⟩ := ih ha
      exact ⟨b', List.mem_cons_of_mem b hb', h⟩

theorem map_eq_of_forall₂ {α β γ : Type} {f : α → γ} {g : β → γ} {as : List α} {bs : List β}
    (h : List.Forall₂ (fun a b => f a = g b) as bs) : as.map f = bs.map g := by
  rw [← List.forall₂_eq_eq_eq, List.forall₂_map_left_iff, List.forall₂_map_right_iff]
  exact h

/-- The names that the shape knows are those of the slots. -/
theorem knows_eq (hfits : List.Forall₂ Field.Fits s.fields slots) (p : String × Draft) :
    s.knows p = decide (p.1 ∈ slots.map Slot.name) := by
  have hnames : s.fields.map Field.name = slots.map Slot.name :=
    map_eq_of_forall₂ (hfits.imp fun _ _ h => h.name_eq)
  rw [Shape.knows, ← hnames, Bool.eq_iff_iff, List.find?_isSome]
  simp

/-- A field of an object is taken or passed over. -/
theorem reads_entry (hfits : List.Forall₂ Field.Fits s.fields slots) {entries : List Entry}
    (h : ShownIn slots entries) {e : Entry} (he : e ∈ entries) :
    ∃ d, Reads e.value d ∧ (s.Accepts (e.name, d) ∨ s.Skips (e.name, d)) := by
  cases hfind : s.fields.find? (·.name = e.name) with
  | some field =>
    obtain ⟨x, hx, hfit⟩ := exists_of_forall₂ hfits (List.mem_of_find?_eq_some hfind)
    have hname : field.name = e.name := by simpa using List.find?_some hfind
    obtain ⟨d, hd, hcheck⟩ := hfit.check e.value (h.known e he x hx (hfit.name_eq ▸ hname))
    exact ⟨d, hd, .inl ⟨field, hfind, hcheck⟩⟩
  | none =>
    have hunknown : ∀ x ∈ slots, x.name ≠ e.name := by
      intro x hx hname
      have hknows := knows_eq hfits (e.name, .null)
      rw [Shape.knows, hfind, decide_eq_true (hname ▸ List.mem_map_of_mem hx)] at hknows
      cases hknows
    obtain ⟨d, hd, hintact⟩ := reads_of_wellFormed (h.unknown e he hunknown)
    exact ⟨d, hd, .inr ⟨hfind, hintact⟩⟩

/-- What is read of an entry. -/
def Entry.field (draft : Entry → Draft) (e : Entry) : String × Draft := (e.name, draft e)

/-- An object that shows a record is taken. -/
theorem reads_record_object (hfits : List.Forall₂ Field.Fits s.fields slots) {cs : List Char}
    {entries : List Entry} (h : ShownIn slots entries)
    (hcs : ObjectText (entries.map fun e => (e.key, e.value)) cs) :
    ∃ d values, Reads cs d ∧ s.read d = .ok values ∧ Covers slots values := by
  choose! draft hreads hsort using fun e => reads_entry hfits h (e := e)
  have hobject : Reads cs
      (.obj ((entries.map (Entry.field draft)).map fun p => (.str p.1, p.2)) true) := by
    refine .object hcs ?_
    rw [List.map_map, List.forall₂_map_left_iff, List.forall₂_map_right_iff, List.forall₂_same]
    exact fun e he => ⟨reads_of_quotes (h.key e he), rfl, hreads e he⟩
  have hnames : ((entries.map (Entry.field draft)).filter s.knows).map Prod.fst =
      (entries.map Entry.name).filter (· ∈ slots.map Slot.name) := by
    simp only [List.filter_map, List.map_map, Function.comp_def, Entry.field, knows_eq hfits]
  have hfields : ∀ p ∈ entries.map (Entry.field draft), s.Accepts p ∨ s.Skips p :=
    List.forall_mem_map.2 hsort
  have hread := Shape.readFields_of_known hfields []
    (by rw [List.nil_append, hnames]; exact h.once)
  refine ⟨_, _, hobject, hread, ?_, ?_⟩
  · intro p hp
    obtain ⟨hp, hknows⟩ := List.mem_filter.1 hp
    obtain ⟨e, he, rfl⟩ := List.mem_map.1 hp
    rw [knows_eq hfits, decide_eq_true_eq] at hknows
    obtain ⟨x, hx, hname⟩ := List.mem_map.1 hknows
    exact ⟨x, hx, hname, e.value, h.known e he x hx hname, hreads e he⟩
  · intro x hx hnot
    refine h.missing x hx fun e he hname => hnot ?_
    rw [List.nil_append, hnames, List.mem_filter, decide_eq_true_eq]
    exact ⟨hname ▸ List.mem_map_of_mem he, List.mem_map_of_mem hx⟩

/-- The items of an array are taken as the first fields. -/
theorem readItems_of_fits (hdefaults : s.defaults = true) {front back : List Slot}
    {items : List (List Char)} (hitems : List.Forall₂ Slot.Shown front items)
    {fields : List Field} (hfits : List.Forall₂ Field.Fits fields (front ++ back))
    (taken : Shape.Values) :
    ∃ ds values, List.Forall₂ Reads items ds ∧
      s.readItems true taken fields ds = .ok (taken ++ values) ∧
      values.map Prod.fst = front.map Slot.name ∧
      ∀ p ∈ values, ∃ x ∈ front, x.name = p.1 ∧ ∃ cs, x.Shown cs ∧ Reads cs p.2 := by
  induction hitems generalizing fields taken with
  | nil =>
    refine ⟨[], [], .nil, ?_, rfl, fun p hp => (List.not_mem_nil hp).elim⟩
    rw [List.append_nil]
    cases fields with
    | nil => rfl
    | cons field fields =>
      rw [Shape.readItems, hdefaults]
      rfl
  | @cons x t front items hshown _ ih =>
    obtain ⟨field, fields, hfit, hrest, rfl⟩ := List.forall₂_cons_right_iff.1 hfits
    obtain ⟨d, hd, hcheck⟩ := hfit.check t hshown
    obtain ⟨ds, values, hds, hread, hnames, hvalues⟩ := ih hrest (taken ++ [(x.name, d)])
    refine ⟨d :: ds, (x.name, d) :: values, .cons hd hds, ?_, ?_, ?_⟩
    · rw [Shape.readItems, hcheck, hfit.name_eq]
      rw [List.append_assoc] at hread
      exact hread
    · rw [List.map_cons, List.map_cons, hnames]
    · intro p hp
      rcases List.mem_cons.1 hp with rfl | hp
      · exact ⟨x, List.mem_cons_self, rfl, t, hshown, hd⟩
      · obtain ⟨x', hx', h⟩ := hvalues p hp
        exact ⟨x', List.mem_cons_of_mem x hx', h⟩

/-- Every text that shows a record is taken by the reader of its shape. -/
theorem Reads.record (hfits : List.Forall₂ Field.Fits s.fields slots)
    (hdefaults : s.defaults = true) {cs : List Char} (h : RecordText slots cs) :
    ∃ d values, Reads cs d ∧ s.read d = .ok values ∧ Covers slots values := by
  cases h with
  | object h hcs => exact reads_record_object hfits h hcs
  | @array front back items cs hslots hitems hspare hcs =>
    subst hslots
    obtain ⟨ds, values, hds, hread, hnames, hvalues⟩ := readItems_of_fits hdefaults hitems hfits []
    refine ⟨_, values, .array hcs hds, hread, fun p hp => ?_, fun x hx hnot => ?_⟩
    · obtain ⟨x, hx, h⟩ := hvalues p hp
      exact ⟨x, List.mem_append_left back hx, h⟩
    · rcases List.mem_append.1 hx with hfront | hback
      · exact absurd (hnames ▸ List.mem_map_of_mem hfront) hnot
      · exact hspare x hback

/-- **A reader that gets the value from what the shape takes gets it from every text that shows the
record.** -/
theorem takes_record (hfits : List.Forall₂ Field.Fits s.fields slots) (hdefaults : s.defaults = true)
    (hnodup : (slots.map Slot.name).Nodup) {α : Type} {finish : Shape.Values → Except DecodeError α}
    {a : α} (hfinish : ∀ values, (∀ x ∈ slots, x.Holds values) → finish values = .ok a)
    {cs : List Char} (h : RecordText slots cs) :
    Reader.Takes (fun d => s.read d >>= finish) cs a := by
  obtain ⟨d, values, hd, hread, hcovers⟩ := Reads.record hfits hdefaults h
  refine ⟨d, hd, ?_⟩
  show s.read d >>= finish = .ok a
  rw [hread]
  exact hfinish values fun x => hcovers.holds hnodup

end Record

/-! ## Written records -/

/-- A layout that writes objects as the grammar has them. -/
structure IsLayout (text : Nat → Value → List Char) : Prop where
  int : ∀ level n, text level (.int n) = intText n
  str : ∀ level s, text level (.str s) = stringText s
  obj : ∀ level fields, ObjectText
    (fields.map fun p => (stringText p.1, text (level + 1) p.2)) (text level (.obj fields))

theorem isLayout_compact : IsLayout fun _ => compactText where
  int _ _ := rfl
  str _ _ := rfl
  obj _ := objectText_compact

theorem isLayout_pretty : IsLayout prettyText where
  int _ _ := rfl
  str _ _ := rfl
  obj := objectText_pretty

/-- A layout that writes arrays as the grammar has them, too, and doubles in the one form they
have. -/
structure IsFullLayout (text : Nat → Value → List Char) : Prop extends IsLayout text where
  float : ∀ level x, text level (.float x) = floatText x
  arr : ∀ level items, ArrayText (items.map (text (level + 1))) (text level (.arr items))

theorem isFullLayout_compact : IsFullLayout fun _ => compactText where
  toIsLayout := isLayout_compact
  float _ _ := rfl
  arr _ := arrayText_compact

theorem isFullLayout_pretty : IsFullLayout prettyText where
  toIsLayout := isLayout_pretty
  float _ _ := rfl
  arr := arrayText_pretty

namespace IsLayout

variable {text : Nat → Value → List Char} (hlayout : IsLayout text) (level : Nat)

include hlayout

theorem reads_str (s : String) : Reads (text level (.str s)) (.str s) := by
  rw [hlayout.str]
  exact reads_of_quotes (quotes_stringText s)

theorem reads_int64 (n : Int64) : Reads (text level (.int64 n)) (.int n.toInt) := by
  have hrange := Value.readable_int64 n
  rw [Value.int64, hlayout.int]
  exact Draft.reads_intText hrange.1 hrange.2

/-- An object is read field by field. -/
theorem reads_obj {fields : List (String × Value)} (drafts : List (String × Draft))
    (h : List.Forall₂ (fun p q => p.1 = q.1 ∧ Reads (text (level + 1) p.2) q.2) fields drafts) :
    Reads (text level (.obj fields)) (.obj (drafts.map fun q => (.str q.1, q.2)) true) := by
  refine .object (hlayout.obj level fields) ?_
  rw [List.forall₂_map_left_iff, List.forall₂_map_right_iff]
  exact h.imp fun p q hpq =>
    ⟨hpq.1 ▸ reads_of_quotes (quotes_stringText p.1), rfl, hpq.2⟩

end IsLayout

/-- An array is read item by item. -/
theorem IsFullLayout.reads_arr {text : Nat → Value → List Char} (hlayout : IsFullLayout text)
    (level : Nat) {items : List Value} {drafts : List Draft}
    (h : List.Forall₂ (fun v d => Reads (text (level + 1) v) d) items drafts) :
    Reads (text level (.arr items)) (.arr drafts true) :=
  .array (hlayout.arr level items) (List.forall₂_map_left_iff.2 h)

/-- All fields of a record, each as it is written. -/
theorem shownIn_fields {slots : List Slot} {fields : List (String × Value)}
    {text : Value → List Char}
    (h : List.Forall₂ (fun x p => x.name = p.1 ∧ x.Shown (text p.2)) slots fields)
    (hnodup : (slots.map Slot.name).Nodup) :
    ShownIn slots (fields.map fun p => ⟨p.1, stringText p.1, text p.2⟩) where
  key := List.forall_mem_map.2 fun p _ => quotes_stringText p.1
  known := List.forall_mem_map.2 fun p hp x hx hname => by
    obtain ⟨x', hx', hname', hshown⟩ := exists_of_forall₂ h.flip hp
    cases List.inj_on_of_nodup_map hnodup hx hx' (hname.trans hname'.symm)
    exact hshown
  unknown := List.forall_mem_map.2 fun p hp hnone => by
    obtain ⟨x, hx, hname, -⟩ := exists_of_forall₂ h.flip hp
    exact absurd hname (hnone x hx)
  once := by
    have hnames : slots.map Slot.name = fields.map Prod.fst :=
      map_eq_of_forall₂ (h.imp fun _ _ h => h.1)
    rw [List.map_map]
    exact (hnames ▸ hnodup).filter _
  missing x hx hnone := by
    obtain ⟨p, hp, hname, -⟩ := exists_of_forall₂ h hx
    exact absurd hname.symm (hnone _ (List.mem_map_of_mem hp))

theorem recordText_fields {text : Nat → Value → List Char} (hlayout : IsLayout text) (level : Nat)
    {slots : List Slot} {fields : List (String × Value)}
    (h : List.Forall₂ (fun x p => x.name = p.1 ∧ x.Shown (text (level + 1) p.2)) slots fields)
    (hnodup : (slots.map Slot.name).Nodup) : RecordText slots (text level (.obj fields)) := by
  refine .object (shownIn_fields h hnodup) ?_
  rw [List.map_map]
  exact hlayout.obj level fields

end Abacus.Json
