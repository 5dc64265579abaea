import Abacus.Proofs.Json.Decimals
import Abacus.Proofs.Json.Grammar

/-!
# Documents survive writing

Both layouts put brackets, commas and blanks as the grammar has it. So the pretty text of a value is
read as one complete draft with nothing left behind it (`read_pretty`). What the draft holds is the
value itself, except that a double can be read as another one and that there is no text for those
that are not finite: `Draft.ofValue` is the draft and `Value.reread` the value it stands for.
-/

namespace Abacus.Json

open Abacus.Decimal

mutual

/-- Every integer fits into 64 bits, and every double is the result of a calculator. -/
def Value.Readable : Value → Prop
  | .int n => -0x8000000000000000 ≤ n ∧ n < 0x10000000000000000
  | .float x => Doubles.Tame x
  | .arr items => ReadableItems items
  | .obj fields => ReadableFields fields
  | _ => True

def Value.ReadableItems : List Value → Prop
  | [] => True
  | v :: vs => Value.Readable v ∧ Value.ReadableItems vs

def Value.ReadableFields : List (String × Value) → Prop
  | [] => True
  | (_, v) :: vs => Value.Readable v ∧ Value.ReadableFields vs

end

theorem Value.readable_int64 (n : Int64) : (Value.int64 n).Readable := by
  have hlow := n.minValue_le_toInt
  have hhigh := n.toInt_lt
  rw [Int64.toInt_minValue] at hlow
  exact ⟨by omega, by omega⟩

mutual

/-- The draft of the text of a value. -/
def Draft.ofValue : Value → Draft
  | .null => .null
  | .bool b => .bool b
  | .int n => .int n
  | .float x => if isFinite x then (readNumber (floatText x)).1 else .null
  | .str s => .str s
  | .arr items => .arr (Draft.ofItems items) true
  | .obj fields => .obj (Draft.ofFields fields) true

def Draft.ofItems : List Value → List Draft
  | [] => []
  | v :: vs => Draft.ofValue v :: Draft.ofItems vs

def Draft.ofFields : List (String × Value) → List (Draft × Draft)
  | [] => []
  | (k, v) :: vs => (.str k, Draft.ofValue v) :: Draft.ofFields vs

end

/-- The double that is read for a written one, if it is finite. -/
def Value.rereadFloat (x : Float) : Value :=
  match Draft.ofValue (.float x) with
  | .float y => .float y
  | _ => .null

mutual

/-- The value that is read for a written one. -/
def Value.reread : Value → Value
  | .float x => Value.rereadFloat x
  | .arr items => .arr (Value.rereadItems items)
  | .obj fields => .object (Value.rereadFields fields)
  | v => v

def Value.rereadItems : List Value → List Value
  | [] => []
  | v :: vs => Value.reread v :: Value.rereadItems vs

def Value.rereadFields : List (String × Value) → List (String × Value)
  | [] => []
  | (k, v) :: vs => (k, Value.reread v) :: Value.rereadFields vs

end

/-! ## The layouts -/

theorem blank_newline (level : Nat) : Blank (newline level) := by
  intro c hc
  rcases List.mem_cons.1 hc with rfl | hc
  · rfl
  · rw [List.eq_of_mem_replicate hc]
    rfl

theorem behind_prettyItems (level outer : Nat) (vs : List Value) :
    Behind (vs.map (prettyText level)) (prettyItems level vs ++ newline outer) := by
  induction vs with
  | nil => exact .nil (blank_newline outer)
  | cons v vs ih =>
    have htext : prettyItems level (v :: vs) ++ newline outer =
        [] ++ ',' :: (newline level ++ (prettyText level v ++
          (prettyItems level vs ++ newline outer))) := by
      simp [prettyItems]
    rw [htext]
    exact .cons blank_nil (blank_newline level) ih

/-- The pretty text of an array. -/
theorem arrayText_pretty (level : Nat) (items : List Value) :
    ArrayText (items.map (prettyText (level + 1))) (prettyText level (.arr items)) := by
  cases items with
  | nil => exact .nil blank_nil
  | cons v vs =>
    have htext : prettyText level (.arr (v :: vs)) =
        '[' :: (newline (level + 1) ++ (prettyText (level + 1) v ++
          (prettyItems (level + 1) vs ++ newline level ++ [']']))) := by
      simp [prettyText]
    rw [htext]
    exact .cons (blank_newline _) (behind_prettyItems _ _ vs)

/-- A field of the pretty text. -/
def prettyField (level : Nat) (p : String × Value) : List Char :=
  stringText p.1 ++ ':' :: ' ' :: prettyText level p.2

theorem behind_prettyFields (level outer : Nat) (vs : List (String × Value)) :
    Behind (vs.map (prettyField level)) (prettyFields level vs ++ newline outer) := by
  induction vs with
  | nil => exact .nil (blank_newline outer)
  | cons p vs ih =>
    obtain ⟨k, v⟩ := p
    have htext : prettyFields level ((k, v) :: vs) ++ newline outer =
        [] ++ ',' :: (newline level ++ (prettyField level (k, v) ++
          (prettyFields level vs ++ newline outer))) := by
      simp [prettyFields, prettyField]
    rw [htext]
    exact .cons blank_nil (blank_newline level) ih

/-- The pretty text of an object. -/
theorem objectText_pretty (level : Nat) (fields : List (String × Value)) :
    ObjectText (fields.map fun p => (stringText p.1, prettyText (level + 1) p.2))
      (prettyText level (.obj fields)) := by
  refine ⟨fields.map (prettyField (level + 1)), ?_, ?_⟩
  · have hspace : Blank [' '] := by decide
    exact List.forall₂_map_left_iff.2 (List.forall₂_map_right_iff.2
      (List.forall₂_same.2 fun p _ => .mk blank_nil hspace))
  · cases fields with
    | nil => exact .nil blank_nil
    | cons p vs =>
      obtain ⟨k, v⟩ := p
      have htext : prettyText level (.obj ((k, v) :: vs)) =
          '\x7b' :: (newline (level + 1) ++ (prettyField (level + 1) (k, v) ++
            (prettyFields (level + 1) vs ++ newline level ++ ['\x7d']))) := by
        simp [prettyText, prettyField]
      rw [htext]
      exact .cons (blank_newline _) (behind_prettyFields _ _ vs)

theorem behind_compactItems (v : Value) (vs : List Value) :
    ∃ cs, Behind (vs.map compactText) cs ∧ compactItems (v :: vs) = compactText v ++ cs := by
  induction vs generalizing v with
  | nil => exact ⟨[], .nil blank_nil, (List.append_nil _).symm⟩
  | cons w vs ih =>
    obtain ⟨cs, hcs, htext⟩ := ih w
    refine ⟨[] ++ ',' :: ([] ++ (compactText w ++ cs)), .cons blank_nil blank_nil hcs, ?_⟩
    rw [compactItems, htext]
    · simp
    · simp

/-- The compact text of an array. -/
theorem arrayText_compact (items : List Value) :
    ArrayText (items.map compactText) (compactText (.arr items)) := by
  cases items with
  | nil => exact .nil blank_nil
  | cons v vs =>
    obtain ⟨cs, hcs, htext⟩ := behind_compactItems v vs
    have hwhole : compactText (.arr (v :: vs)) =
        '[' :: ([] ++ (compactText v ++ (cs ++ [']']))) := by
      simp [compactText, htext]
    rw [hwhole]
    exact .cons blank_nil hcs

/-- A field of the compact text. -/
def compactField (p : String × Value) : List Char := stringText p.1 ++ ':' :: compactText p.2

theorem behind_compactFields (p : String × Value) (vs : List (String × Value)) :
    ∃ cs, Behind (vs.map compactField) cs ∧ compactFields (p :: vs) = compactField p ++ cs := by
  induction vs generalizing p with
  | nil => exact ⟨[], .nil blank_nil, (List.append_nil _).symm⟩
  | cons q vs ih =>
    obtain ⟨cs, hcs, htext⟩ := ih q
    refine ⟨[] ++ ',' :: ([] ++ (compactField q ++ cs)), .cons blank_nil blank_nil hcs, ?_⟩
    obtain ⟨k, v⟩ := p
    rw [compactFields, htext]
    · simp [compactField]
    · simp

/-- The compact text of an object. -/
theorem objectText_compact (fields : List (String × Value)) :
    ObjectText (fields.map fun p => (stringText p.1, compactText p.2))
      (compactText (.obj fields)) := by
  refine ⟨fields.map compactField, ?_, ?_⟩
  · exact List.forall₂_map_left_iff.2 (List.forall₂_map_right_iff.2
      (List.forall₂_same.2 fun p _ => .mk blank_nil blank_nil))
  · cases fields with
    | nil => exact .nil blank_nil
    | cons p vs =>
      obtain ⟨cs, hcs, htext⟩ := behind_compactFields p vs
      have hwhole : compactText (.obj (p :: vs)) =
          '\x7b' :: ([] ++ (compactField p ++ (cs ++ ['\x7d']))) := by
        simp [compactText, htext]
      rw [hwhole]
      exact .cons blank_nil hcs

namespace Draft

/-! ## Values -/

/-- A double is read as a double, or not written as a number. -/
theorem ofValue_float {x : Float} (hx : Doubles.Tame x) :
    isFinite x = true ∧ (∃ y, ofValue (.float x) = .float y ∧
      ∀ rest, Stops rest → readNumber (floatText x ++ rest) = (.float y, some rest)) ∨
    isFinite x = false ∧ ofValue (.float x) = .null := by
  cases hfinite : isFinite x with
  | true =>
    obtain ⟨y, hy⟩ := readNumber_floatText hfinite hx
    have halone : readNumber (floatText x) = (.float y, some []) := by
      rw [← hy [] (fun c hc => by cases hc), List.append_nil]
    have hdraft : ofValue (.float x) = .float y := by rw [ofValue, if_pos hfinite, halone]
    exact .inl ⟨rfl, y, hdraft, hy⟩
  | false =>
    have hdraft : ofValue (.float x) = .null := by
      rw [ofValue, hfinite]
      rfl
    exact .inr ⟨rfl, hdraft⟩

theorem reads_floatText {x : Float} (hx : Doubles.Tame x) :
    Reads (floatText x) (ofValue (.float x)) := by
  rcases ofValue_float hx with ⟨hfinite, y, hdraft, hread⟩ | ⟨hfinite, hdraft⟩
  · rw [hdraft]
    exact reads_number (head_floatText hfinite) hread
  · rw [floatText, hfinite, hdraft]
    exact reads_null

theorem reads_intText {n : Int} (hlow : -0x8000000000000000 ≤ n) (hhigh : n < 0x10000000000000000) :
    Reads (intText n) (.int n) :=
  reads_number (Text.head_renderInt n) fun _ => readNumber_intText hlow hhigh

mutual

/-- The text of a value is read as its draft. -/
theorem reads_prettyText (v : Value) (h : v.Readable) (level : Nat) :
    Reads (prettyText level v) (ofValue v) := by
  cases v with
  | null => exact reads_null
  | bool b =>
    cases b with
    | false => exact reads_false
    | true => exact reads_true
  | int n => exact reads_intText h.1 h.2
  | float x => exact reads_floatText h
  | str s => exact reads_of_quotes (quotes_stringText s)
  | arr items => exact .array (arrayText_pretty level items) (reads_prettyItems items h (level + 1))
  | obj fields =>
    exact .object (objectText_pretty level fields) (reads_prettyFields fields h (level + 1))

theorem reads_prettyItems (vs : List Value) (h : Value.ReadableItems vs) (level : Nat) :
    List.Forall₂ Reads (vs.map (prettyText level)) (ofItems vs) := by
  cases vs with
  | nil => exact .nil
  | cons v vs => exact .cons (reads_prettyText v h.1 level) (reads_prettyItems vs h.2 level)

theorem reads_prettyFields (vs : List (String × Value)) (h : Value.ReadableFields vs)
    (level : Nat) :
    List.Forall₂ ReadsField (vs.map fun p => (stringText p.1, prettyText level p.2))
      (ofFields vs) := by
  cases vs with
  | nil => exact .nil
  | cons p vs =>
    obtain ⟨k, v⟩ := p
    exact .cons ⟨reads_of_quotes (quotes_stringText k), rfl, reads_prettyText v h.1 level⟩
      (reads_prettyFields vs h.2 level)

end

end Draft

/-! ## What the draft stands for -/

namespace Draft

mutual

/-- The draft of a value that is not too deep can be used. -/
theorem value?_ofValue (v : Value) (h : v.Readable) (depth : Nat) (hdepth : v.depth ≤ depth) :
    (ofValue v).value? depth = some v.reread := by
  cases v with
  | null | bool | int | str => rfl
  | float x =>
    rw [Value.reread, Value.rereadFloat]
    rcases ofValue_float h with ⟨-, y, hdraft, -⟩ | ⟨-, hdraft⟩ <;> rw [hdraft] <;> rfl
  | arr items =>
    rw [Value.depth] at hdepth
    obtain ⟨depth, rfl⟩ : ∃ n, depth = n + 1 := ⟨depth - 1, by omega⟩
    have hitems := values?_ofItems items h depth (by omega)
    simp only [ofValue, value?, if_true, hitems, Value.reread, Option.map_some]
  | obj fields =>
    rw [Value.depth] at hdepth
    obtain ⟨depth, rfl⟩ : ∃ n, depth = n + 1 := ⟨depth - 1, by omega⟩
    have hfields := fields?_ofFields fields h depth (by omega)
    simp only [ofValue, value?, if_true, hfields, Value.reread, Option.map_some]

theorem values?_ofItems (vs : List Value) (h : Value.ReadableItems vs) (depth : Nat)
    (hdepth : Value.depthItems vs ≤ depth) :
    values? depth (ofItems vs) = some (Value.rereadItems vs) := by
  cases vs with
  | nil => rfl
  | cons v vs =>
    rw [Value.depthItems] at hdepth
    have hvalue := value?_ofValue v h.1 depth (by omega)
    have hitems := values?_ofItems vs h.2 depth (by omega)
    rw [ofItems, values?, hvalue, hitems]
    rfl

theorem fields?_ofFields (vs : List (String × Value)) (h : Value.ReadableFields vs) (depth : Nat)
    (hdepth : Value.depthFields vs ≤ depth) :
    fields? depth (ofFields vs) = some (Value.rereadFields vs) := by
  cases vs with
  | nil => rfl
  | cons field vs =>
    obtain ⟨k, v⟩ := field
    rw [Value.depthFields] at hdepth
    have hvalue := value?_ofValue v h.1 depth (by omega)
    have hfields := fields?_ofFields vs h.2 depth (by omega)
    rw [ofFields, fields?, hvalue, hfields]
    rfl

end

end Draft

/-- A written document is read to its end. -/
theorem read_pretty {v : Value} (h : v.Readable) :
    Document.read v.pretty = ⟨Draft.ofValue v, true⟩ := by
  refine read_of_reads (Draft.reads_prettyText v h 0) blank_nil blank_nil ?_
  rw [Value.pretty, String.toList_ofList, List.append_nil, List.nil_append]

end Abacus.Json
