import Abacus.Proofs.Json.Numerals
import Abacus.Proofs.Json.Texts
import Mathlib.Data.List.Forall2

/-!
# JSON texts

The grammar of JSON with blanks between its tokens (`WellFormed`), and what the reader makes of the
texts it admits. A text that `Reads` as a draft is read as that draft in front of anything that does
not continue a number. Brackets around such texts read as the array of the drafts (`Reads.array`),
and braces around fields as the object (`Reads.object`).

So by induction on the grammar every well-formed text is read as a whole, and what is read is intact
(`reads_of_wellFormed`): that is all it takes to be passed over.

The reader recurses on fuel and calls itself three times for an item or field, so `Reads` asks for
three calls for each character.
-/

namespace Abacus.Json

open Abacus.Text

/-! ## The grammar -/

/-- A text between quotes. -/
inductive Quotation : List Char → Prop
  | mk {body : List Char} : Body body → Quotation ('"' :: (body ++ ['"']))

/-- A text between quotes that spells `s`. -/
inductive Quotes (s : String) : List Char → Prop
  | mk {body : List Char} : Spells body s.toList → Quotes s ('"' :: (body ++ ['"']))

/-- Items, each behind a comma. -/
inductive Behind : List (List Char) → List Char → Prop
  | nil {b : List Char} : Blank b → Behind [] b
  | cons {b b' t cs : List Char} {ts : List (List Char)} : Blank b → Blank b' → Behind ts cs →
      Behind (t :: ts) (b ++ ',' :: (b' ++ (t ++ cs)))

/-- Items between brackets, with commas between them. -/
inductive Enclosed (opening closing : Char) : List (List Char) → List Char → Prop
  | nil {b : List Char} : Blank b → Enclosed opening closing [] (opening :: (b ++ [closing]))
  | cons {b t cs : List Char} {ts : List (List Char)} : Blank b → Behind ts cs →
      Enclosed opening closing (t :: ts) (opening :: (b ++ (t ++ (cs ++ [closing]))))

/-- An array with items in this order. -/
abbrev ArrayText : List (List Char) → List Char → Prop := Enclosed '[' ']'

/-- A field with its key and its value. -/
inductive FieldText (key value : List Char) : List Char → Prop
  | mk {b b' : List Char} : Blank b → Blank b' →
      FieldText key value (key ++ (b ++ ':' :: (b' ++ value)))

/-- An object with fields in this order, each given by its key and its value. -/
def ObjectText (fields : List (List Char × List Char)) (cs : List Char) : Prop :=
  ∃ ts, List.Forall₂ (fun f t => FieldText f.1 f.2 t) fields ts ∧ Enclosed '\x7b' '\x7d' ts cs

/-- A value as the grammar admits it. -/
inductive WellFormed : List Char → Prop
  | null : WellFormed ['n', 'u', 'l', 'l']
  | true : WellFormed ['t', 'r', 'u', 'e']
  | false : WellFormed ['f', 'a', 'l', 's', 'e']
  | number {cs : List Char} : NumberText cs → WellFormed cs
  | text {cs : List Char} : Quotation cs → WellFormed cs
  | array {items : List (List Char)} {cs : List Char} : (∀ t ∈ items, WellFormed t) →
      ArrayText items cs → WellFormed cs
  | object {fields : List (List Char × List Char)} {cs : List Char} :
      (∀ f ∈ fields, Quotation f.1) → (∀ f ∈ fields, WellFormed f.2) → ObjectText fields cs →
      WellFormed cs

/-! ## First characters -/

/-- A character with which a value can start. -/
structure Opens (c : Char) : Prop where
  not_space : isSpace c = false
  not_bracket : c ≠ ']'
  not_brace : c ≠ '\x7d'

theorem opens_of_number {c : Char} (h : c = '-' ∨ c.isDigit = true) : Opens c := by
  rcases h with rfl | h
  · exact ⟨rfl, by decide, by decide⟩
  · refine ⟨?_, ?_, ?_⟩
    · cases hspace : isSpace c with
      | false => rfl
      | true =>
        simp only [isSpace, Bool.or_eq_true, decide_eq_true_eq] at hspace
        rcases hspace with ((rfl | rfl) | rfl) | rfl <;> cases h
    · rintro rfl
      cases h
    · rintro rfl
      cases h

/-- The text starts like a value. -/
def Starts (cs : List Char) : Prop := ∃ c cs', cs = c :: cs' ∧ Opens c

/-- Such a text stays as it is when blanks in front of it are skipped. -/
theorem Starts.skipSpace {b t : List Char} (h : Starts t) (hb : Blank b) (cs : List Char) :
    skipSpace (b ++ (t ++ cs)) = t ++ cs := by
  obtain ⟨c, cs', rfl, hc⟩ := h
  rw [skipSpace_of_blank hb, List.cons_append, skipSpace_of_head hc.not_space]

/-! ## Reading -/

/-- The text is read as a draft, whatever follows that does not continue a number. -/
structure Reads (cs : List Char) (d : Draft) : Prop where
  starts : Starts cs
  read : ∀ fuel rest, 3 * cs.length ≤ fuel → Stops rest →
    Draft.readValue fuel (cs ++ rest) = (d, some rest)

variable {b b' cs t rest : List Char} {d : Draft} {fuel : Nat}

theorem stops_nil : Stops [] := fun _ hc => by cases hc

theorem Reads.unique {d' : Draft} (h : Reads cs d) (h' : Reads cs d') : d = d' := by
  have hread := h.read _ [] (Nat.le_refl _) stops_nil
  rw [h'.read _ [] (Nat.le_refl _) stops_nil] at hread
  exact (congrArg Prod.fst hread).symm

/-- A text of one token needs a single call. -/
theorem reads_of_token {c : Char} (hc : Opens c)
    (h : ∀ fuel rest, Stops rest →
      Draft.readValue (fuel + 1) (c :: cs ++ rest) = (d, some rest)) : Reads (c :: cs) d where
  starts := ⟨c, cs, rfl, hc⟩
  read fuel rest hfuel hrest := by
    rw [List.length_cons] at hfuel
    obtain ⟨fuel, rfl⟩ : ∃ n, fuel = n + 1 := ⟨fuel - 1, by omega⟩
    exact h fuel rest hrest

namespace Draft

theorem readValue_skipSpace {cs cs' : List Char} (h : skipSpace cs = skipSpace cs') :
    readValue fuel cs = readValue fuel cs' := by
  cases fuel with
  | zero => rfl
  | succ fuel => rw [readValue, readValue, h]

theorem readValue_of_blank (hb : Blank b) (cs : List Char) :
    readValue fuel (b ++ cs) = readValue fuel cs :=
  readValue_skipSpace (skipSpace_of_blank hb cs)

theorem readValue_number {c : Char} (hc : c = '-' ∨ c.isDigit = true) (cs : List Char) :
    readValue (fuel + 1) (c :: cs) = readNumber (c :: cs) := by
  rw [readValue, skipSpace_of_head (opens_of_number hc).not_space]
  split
  next heq => cases (List.cons.inj heq).1; simp at hc
  next heq => cases (List.cons.inj heq).1; simp at hc
  next heq => cases (List.cons.inj heq).1; simp at hc
  next heq => cases (List.cons.inj heq).1; simp at hc
  next heq => cases (List.cons.inj heq).1; simp at hc
  next heq => cases (List.cons.inj heq).1; simp at hc
  next => rfl

end Draft

theorem reads_null : Reads ['n', 'u', 'l', 'l'] .null :=
  reads_of_token ⟨rfl, by decide, by decide⟩ fun _ _ _ => rfl

theorem reads_true : Reads ['t', 'r', 'u', 'e'] (.bool true) :=
  reads_of_token ⟨rfl, by decide, by decide⟩ fun _ _ _ => rfl

theorem reads_false : Reads ['f', 'a', 'l', 's', 'e'] (.bool false) :=
  reads_of_token ⟨rfl, by decide, by decide⟩ fun _ _ _ => rfl

theorem reads_number (hhead : ∃ c cs', cs = c :: cs' ∧ (c = '-' ∨ c.isDigit = true))
    (h : ∀ rest, Stops rest → Draft.readNumber (cs ++ rest) = (d, some rest)) : Reads cs d := by
  obtain ⟨c, cs', rfl, hc⟩ := hhead
  exact reads_of_token (opens_of_number hc) fun fuel rest hrest =>
    (Draft.readValue_number hc _).trans (h rest hrest)

/-- A text between quotes is read if what is between them is. -/
theorem reads_text {body : List Char}
    (h : ∀ rest, Draft.readText (body ++ '"' :: rest) = (d, some rest)) :
    Reads ('"' :: (body ++ ['"'])) d := by
  refine reads_of_token ⟨rfl, by decide, by decide⟩ fun fuel rest _ => ?_
  rw [List.cons_append, List.append_assoc, Draft.readValue, skipSpace_of_head rfl]
  exact h rest

theorem reads_of_quotes {s : String} (h : Quotes s cs) : Reads cs (.str s) := by
  obtain @⟨body, hbody⟩ := h
  refine reads_text fun rest => ?_
  rw [Draft.readText, textBody_of_spells hbody]
  exact congrArg (fun s => (Draft.str s, some rest)) String.ofList_toList

theorem quotes_stringText (s : String) : Quotes s (stringText s) :=
  .mk (spells_escaped s.toList)

theorem Quotes.quotation {s : String} (h : Quotes s cs) : Quotation cs := by
  obtain @⟨body, hbody⟩ := h
  exact .mk hbody.body

theorem reads_of_quotation (h : Quotation cs) :
    ∃ d, Reads cs d ∧ d.intactKey = true ∧ d.intact = true := by
  obtain @⟨body, hbody⟩ := h
  obtain ⟨text, htext⟩ := textBody_of_body hbody none
  cases text with
  | none =>
    refine ⟨.unpaired, reads_text fun rest => ?_, rfl, rfl⟩
    rw [Draft.readText, htext]
  | some text =>
    refine ⟨.str (String.ofList text), reads_text fun rest => ?_, rfl, rfl⟩
    rw [Draft.readText, htext]

theorem reads_of_numberText (h : NumberText cs) : ∃ d, Reads cs d ∧ d.intact = true := by
  obtain ⟨l, hl⟩ := literal_of_text h
  refine ⟨.ofNumber l.number, reads_number (head_numberText h) fun rest hrest => ?_, ?_⟩
  · rw [Draft.readNumber, hl rest hrest]
  · cases l.number <;> rfl

/-! ## Arrays -/

theorem stops_of_behind {ts : List (List Char)} (h : Behind ts cs) (hrest : Stops rest) :
    Stops (cs ++ rest) := by
  cases h with
  | nil hb => exact stops_of_blank hb hrest
  | cons hb =>
    rw [List.append_assoc]
    exact stops_of_blank hb (stops_cons (by decide) _)

theorem stops_bracket (cs : List Char) : Stops (']' :: cs) := stops_cons (by decide) cs

theorem stops_brace (cs : List Char) : Stops ('\x7d' :: cs) := stops_cons (by decide) cs

namespace Draft

theorem readItems_first (ht : Starts t) (hb : Blank b) (cs : List Char) :
    readItems (fuel + 1) true (b ++ (t ++ cs)) = readItem fuel (t ++ cs) := by
  have hskip := ht.skipSpace hb cs
  obtain ⟨c, cs', rfl, hc⟩ := ht
  have hne := hc.not_bracket
  unfold readItems
  rw [hskip, List.cons_append]
  split <;> simp_all

theorem readItems_next (ht : Starts t) (hb : Blank b) (hb' : Blank b')
    (cs : List Char) :
    readItems (fuel + 1) false (b ++ ',' :: (b' ++ (t ++ cs))) = readItem fuel (t ++ cs) := by
  have hskip := ht.skipSpace hb' cs
  obtain ⟨c, cs', rfl, hc⟩ := ht
  have hne := hc.not_bracket
  rw [List.cons_append] at hskip ⊢
  unfold readItems
  rw [skipSpace_of_blank hb, skipSpace_of_head rfl]
  simp only [hskip]
  split <;> simp_all

theorem readItems_close (hb : Blank b) (first : Bool) (rest : List Char) :
    readItems (fuel + 1) first (b ++ ']' :: rest) = ([], some rest) := by
  unfold readItems
  rw [skipSpace_of_blank hb, skipSpace_of_head rfl]
  cases first <;> rfl

theorem readItem_of_read {cs cs' : List Char} {ds : List Draft}
    (hvalue : readValue fuel cs = (d, some cs'))
    (hitems : readItems fuel false cs' = (ds, some rest)) :
    readItem (fuel + 1) cs = (d :: ds, some rest) := by
  rw [readItem, hvalue]
  simp only [hitems]

/-- The items behind a first one. -/
theorem readItems_of_behind {ts : List (List Char)} {ds : List Draft} (hcs : Behind ts cs)
    (h : List.Forall₂ Reads ts ds) (fuel : Nat) (rest : List Char)
    (hfuel : 3 * cs.length + 1 ≤ fuel) :
    readItems fuel false (cs ++ ']' :: rest) = (ds, some rest) := by
  induction hcs generalizing ds fuel with
  | nil hb =>
    cases h
    obtain ⟨fuel, rfl⟩ : ∃ n, fuel = n + 1 := ⟨fuel - 1, by omega⟩
    exact readItems_close hb false rest
  | @cons b b' t cs ts hb hb' hcs ih =>
    obtain ⟨d, ds, ht, hts, rfl⟩ := List.forall₂_cons_left_iff.1 h
    simp only [List.length_append, List.length_cons] at hfuel
    obtain ⟨fuel, rfl⟩ : ∃ n, fuel = n + 2 := ⟨fuel - 2, by omega⟩
    have hvalue := ht.read fuel (cs ++ ']' :: rest) (by omega)
      (stops_of_behind hcs (stops_bracket rest))
    have hitems := ih hts fuel (by omega)
    simp only [List.append_assoc, List.cons_append]
    rw [readItems_next ht.starts hb hb', readItem_of_read hvalue hitems]

end Draft

/-- An array of texts that are read is read as the array of their drafts. -/
theorem Reads.array {ts : List (List Char)} {ds : List Draft} (hcs : ArrayText ts cs)
    (h : List.Forall₂ Reads ts ds) : Reads cs (.arr ds true) := by
  have hopens : Opens '[' := ⟨rfl, by decide, by decide⟩
  cases hcs with
  | @nil b hb =>
    cases h
    refine ⟨⟨_, _, rfl, hopens⟩, fun fuel rest hfuel hrest => ?_⟩
    simp only [List.length_append, List.length_cons] at hfuel
    obtain ⟨fuel, rfl⟩ : ∃ n, fuel = n + 2 := ⟨fuel - 2, by omega⟩
    simp only [List.append_assoc, List.cons_append, List.nil_append]
    rw [Draft.readValue, skipSpace_of_head rfl]
    simp only [Draft.readItems_close hb]
  | @cons b t cs ts hb hcs =>
    obtain ⟨d, ds, ht, hts, rfl⟩ := List.forall₂_cons_left_iff.1 h
    refine ⟨⟨_, _, rfl, hopens⟩, fun fuel rest hfuel hrest => ?_⟩
    simp only [List.length_append, List.length_cons] at hfuel
    obtain ⟨fuel, rfl⟩ : ∃ n, fuel = n + 3 := ⟨fuel - 3, by omega⟩
    have hvalue := ht.read fuel (cs ++ ']' :: rest) (by omega)
      (stops_of_behind hcs (stops_bracket rest))
    have hitems := Draft.readItems_of_behind hcs hts fuel rest (by omega)
    simp only [List.append_assoc, List.cons_append, List.nil_append]
    rw [Draft.readValue, skipSpace_of_head rfl]
    simp only [Draft.readItems_first ht.starts hb, Draft.readItem_of_read hvalue hitems]

/-! ## Objects -/

/-- The key and the value of a field are read as drafts, the one as a key. -/
structure ReadsField (f : List Char × List Char) (p : Draft × Draft) : Prop where
  key : Reads f.1 p.1
  intactKey : p.1.intactKey = true
  value : Reads f.2 p.2

theorem FieldText.starts {key value : List Char} (h : FieldText key value t) (hkey : Starts key) :
    Starts t := by
  obtain ⟨c, cs, rfl, hc⟩ := hkey
  cases h
  exact ⟨c, _, rfl, hc⟩

variable {f : List Char × List Char} {fields : List (List Char × List Char)} {p : Draft × Draft}
  {ps : List (Draft × Draft)} {ts : List (List Char)}

namespace Draft

theorem readFields_first (ht : Starts t) (hb : Blank b) (cs : List Char) :
    readFields (fuel + 1) true (b ++ (t ++ cs)) = readField fuel (t ++ cs) := by
  have hskip := ht.skipSpace hb cs
  obtain ⟨c, cs', rfl, hc⟩ := ht
  have hne := hc.not_brace
  unfold readFields
  rw [hskip, List.cons_append]
  split <;> simp_all

theorem readFields_next (ht : Starts t) (hb : Blank b) (hb' : Blank b') (cs : List Char) :
    readFields (fuel + 1) false (b ++ ',' :: (b' ++ (t ++ cs))) = readField fuel (t ++ cs) := by
  have hskip := ht.skipSpace hb' cs
  obtain ⟨c, cs', rfl, hc⟩ := ht
  have hne := hc.not_brace
  rw [List.cons_append] at hskip ⊢
  unfold readFields
  rw [skipSpace_of_blank hb, skipSpace_of_head rfl]
  simp only [hskip]
  split <;> simp_all

theorem readFields_close (hb : Blank b) (first : Bool) (rest : List Char) :
    readFields (fuel + 1) first (b ++ '\x7d' :: rest) = ([], some rest) := by
  unfold readFields
  rw [skipSpace_of_blank hb, skipSpace_of_head rfl]
  cases first <;> rfl

theorem readField_of_read (ht : FieldText f.1 f.2 t) (hf : ReadsField f p)
    (hfuel : 3 * t.length ≤ fuel) (hcs : Stops cs)
    (hfields : readFields fuel false cs = (ps, some rest)) :
    readField (fuel + 1) (t ++ cs) = (p :: ps, some rest) := by
  obtain @⟨b, b', hb, hb'⟩ := ht
  have hcolon (cs : List Char) : Stops (b ++ ':' :: cs) :=
    stops_of_blank hb (stops_cons (by decide) cs)
  simp only [List.length_append, List.length_cons] at hfuel
  simp only [List.append_assoc, List.cons_append]
  rw [readField, hf.key.read fuel _ (by omega) (hcolon _)]
  simp only [hf.intactKey, if_true, skipSpace_of_blank hb,
    skipSpace_of_head (rfl : isSpace ':' = false), readValue_of_blank hb',
    hf.value.read fuel cs (by omega) hcs, hfields]

/-- The fields behind a first one. -/
theorem readFields_of_behind (hcs : Behind ts cs)
    (hts : List.Forall₂ (fun f t => FieldText f.1 f.2 t) fields ts)
    (h : List.Forall₂ ReadsField fields ps) (fuel : Nat) (rest : List Char)
    (hfuel : 3 * cs.length + 1 ≤ fuel) :
    readFields fuel false (cs ++ '\x7d' :: rest) = (ps, some rest) := by
  induction hcs generalizing fields ps fuel with
  | nil hb =>
    cases hts
    cases h
    obtain ⟨fuel, rfl⟩ : ∃ n, fuel = n + 1 := ⟨fuel - 1, by omega⟩
    exact readFields_close hb false rest
  | @cons b b' t cs ts hb hb' hcs ih =>
    obtain ⟨f, fields, ht, htail, rfl⟩ := List.forall₂_cons_right_iff.1 hts
    obtain ⟨p, ps, hf, hps, rfl⟩ := List.forall₂_cons_left_iff.1 h
    simp only [List.length_append, List.length_cons] at hfuel
    obtain ⟨fuel, rfl⟩ : ∃ n, fuel = n + 2 := ⟨fuel - 2, by omega⟩
    have hfields := ih htail hps fuel (by omega)
    simp only [List.append_assoc, List.cons_append]
    rw [readFields_next (ht.starts hf.key.starts) hb hb',
      readField_of_read ht hf (by omega) (stops_of_behind hcs (stops_brace rest)) hfields]

end Draft

/-- An object of fields that are read is read as the object of their drafts. -/
theorem Reads.object (hcs : ObjectText fields cs) (h : List.Forall₂ ReadsField fields ps) :
    Reads cs (.obj ps true) := by
  have hopens : Opens '\x7b' := ⟨rfl, by decide, by decide⟩
  obtain ⟨ts, hts, hcs⟩ := hcs
  cases hcs with
  | @nil b hb =>
    cases hts
    cases h
    refine ⟨⟨_, _, rfl, hopens⟩, fun fuel rest hfuel hrest => ?_⟩
    simp only [List.length_append, List.length_cons] at hfuel
    obtain ⟨fuel, rfl⟩ : ∃ n, fuel = n + 2 := ⟨fuel - 2, by omega⟩
    simp only [List.append_assoc, List.cons_append, List.nil_append]
    rw [Draft.readValue, skipSpace_of_head rfl]
    simp only [Draft.readFields_close hb]
  | @cons b t cs ts hb hcs =>
    obtain ⟨f, fields, ht, htail, rfl⟩ := List.forall₂_cons_right_iff.1 hts
    obtain ⟨p, ps, hf, hps, rfl⟩ := List.forall₂_cons_left_iff.1 h
    refine ⟨⟨_, _, rfl, hopens⟩, fun fuel rest hfuel hrest => ?_⟩
    simp only [List.length_append, List.length_cons] at hfuel
    obtain ⟨fuel, rfl⟩ : ∃ n, fuel = n + 3 := ⟨fuel - 3, by omega⟩
    have hfields := Draft.readFields_of_behind hcs htail hps fuel rest (by omega)
    have hfirst := Draft.readField_of_read ht hf (by omega)
      (stops_of_behind hcs (stops_brace rest)) hfields
    simp only [List.append_assoc, List.cons_append, List.nil_append]
    rw [Draft.readValue, skipSpace_of_head rfl]
    simp only [Draft.readFields_first (ht.starts hf.key.starts) hb, hfirst]

/-! ## Well-formed texts -/

namespace Draft

theorem intactItems_of_forall {ds : List Draft} (h : ∀ d ∈ ds, d.intact = true) :
    intactItems ds = true := by
  induction ds with
  | nil => rfl
  | cons d ds ih =>
    rw [intactItems, h d List.mem_cons_self, ih fun d hd => h d (List.mem_cons_of_mem _ hd)]
    rfl

theorem intactFields_of_forall {ps : List (Draft × Draft)}
    (h : ∀ p ∈ ps, p.1.intactKey = true ∧ p.2.intact = true) : intactFields ps = true := by
  induction ps with
  | nil => rfl
  | cons p ps ih =>
    obtain ⟨hkey, hvalue⟩ := h p List.mem_cons_self
    rw [intactFields, hkey, hvalue, ih fun p hp => h p (List.mem_cons_of_mem _ hp)]
    rfl

end Draft

/-- **Every well-formed text is read as a whole.** -/
theorem reads_of_wellFormed (h : WellFormed cs) : ∃ d, Reads cs d ∧ d.intact = true := by
  induction h with
  | null => exact ⟨_, reads_null, rfl⟩
  | true => exact ⟨_, reads_true, rfl⟩
  | false => exact ⟨_, reads_false, rfl⟩
  | number h => exact reads_of_numberText h
  | text h =>
    obtain ⟨d, hd, -, hintact⟩ := reads_of_quotation h
    exact ⟨d, hd, hintact⟩
  | @array items cs _ hcs ih =>
    choose! draft hreads hintact using ih
    have hitems : List.Forall₂ Reads items (items.map draft) :=
      List.forall₂_map_right_iff.2 (List.forall₂_same.2 hreads)
    exact ⟨_, .array hcs hitems, Draft.intactItems_of_forall (List.forall_mem_map.2 hintact)⟩
  | @object fields cs hkeys _ hcs ih =>
    choose! key hkey hintact _ using fun f hf => reads_of_quotation (hkeys f hf)
    choose! value hvalue hwhole using ih
    have hfields : List.Forall₂ ReadsField fields (fields.map fun f => (key f, value f)) :=
      List.forall₂_map_right_iff.2 (List.forall₂_same.2 fun f hf =>
        ⟨hkey f hf, hintact f hf, hvalue f hf⟩)
    exact ⟨_, .object hcs hfields, Draft.intactFields_of_forall
      (List.forall_mem_map.2 fun f hf => ⟨hintact f hf, hwhole f hf⟩)⟩

/-- A text with blanks around what is read is a whole document. -/
theorem read_of_reads {s : String} (h : Reads cs d) (hb : Blank b) (hb' : Blank b')
    (hs : s.toList = b ++ (cs ++ b')) : Document.read s = ⟨d, true⟩ := by
  have hfuel : 3 * cs.length ≤ Draft.enough (b ++ (cs ++ b')) := by
    simp only [Draft.enough, List.length_append]
    omega
  have hend : Stops b' := List.append_nil b' ▸ stops_of_blank hb' stops_nil
  have hread : Draft.readValue (Draft.enough (b ++ (cs ++ b'))) (b ++ (cs ++ b')) =
      (d, some b') := by
    rw [Draft.readValue_of_blank hb]
    exact h.read _ b' hfuel hend
  have hskip : skipSpace b' = [] := by
    rw [← List.append_nil b', skipSpace_of_blank hb']
    rfl
  rw [Document.read, hs]
  simp only [hread, hskip, decide_true]

end Abacus.Json
