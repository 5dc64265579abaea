import Abacus.Proofs.Json.Slots
import Abacus.Proofs.Text.Integers
import Abacus.Script

/-!
# The outputs of a report

In JSON the output of a step is a bare value, with nothing beside it that names its kind. But the
kind shows in the form (`Output.Form`): an integer is a number with neither a point nor an exponent,
a finite double is a number with one of them, any other double is one of three texts, and a history
is an array of texts.

So the output can be told from what is read of its text, whatever that text stands in
(`Output.reads_toJson`): the kind, and for an integer and a history also the contents. From there it
goes up to the step and to the report, in both layouts alike (`Report.outputs_told`). A finite
double is told as such only, since the reader may give back a neighbour of what was written.
-/

namespace Abacus

open Json

/-! ## Reading the outputs -/

namespace Json.Draft

def text? : Draft → Option String
  | .str s => some s
  | _ => none

def items? : Draft → Option (List Draft)
  | .arr items _ => some items
  | _ => none

/-- The value of the first field of that name. -/
def field? (name : String) : Draft → Option Draft
  | .obj fields _ => (fields.find? fun p => p.1.text? = some name).map Prod.snd
  | _ => none

end Json.Draft

namespace Output

/-- What can be told of an output from its text: everything but the value of a finite double. -/
inductive Told where
  | integer (n : Int64)
  | finite
  /-- A double without a number form, by its name. -/
  | special (name : String)
  | history (entries : List String)

def told : Output → Told
  | integer n => .integer n
  | float x => if Decimal.isFinite x then .finite else .special (Decimal.Layout.plain.render x)
  | history entries => .history entries

/-- What a draft tells of an output. Only a double with a fraction or an exponent can be unbounded
when it is read. -/
def told? : Draft → Option Told
  | .int n => some (.integer (.ofInt n))
  | .float _ | .unbounded => some .finite
  | .str s => some (.special s)
  | .arr items _ => (items.mapM Draft.text?).map .history
  | _ => none

/-- How the text of an output looks. -/
inductive Form : Output → List Char → Prop
  | integer {n : Int64} {cs : List Char} : NumberText cs → ¬Pointed cs → Form (.integer n) cs
  | finite {x : Float} {cs : List Char} : Decimal.isFinite x = true → NumberText cs → Pointed cs →
      Form (.float x) cs
  | special {x : Float} {name : String} {cs : List Char} : Decimal.isFinite x = false →
      name ∈ ["NaN", "inf", "-inf"] → Quotes name cs → Form (.float x) cs
  | history {entries : List String} {cs : List Char} : ArrayText (entries.map stringText) cs →
      Form (.history entries) cs

end Output

/-- What a draft of a step tells of its output, if there is one. -/
def Step.told? (d : Draft) : Option (Option Output.Told) :=
  match d.field? "output" with
  | none => some none
  | some d => (Output.told? d).map some

/-- What a draft of a report tells of the outputs of its steps. -/
def Report.told? (d : Draft) : Option (List (Option Output.Told)) := do
  let steps ← d.field? "steps"
  let items ← steps.items?
  items.mapM Step.told?

/-- What the text of a report tells of the outputs of its steps. -/
def Report.outputsIn (text : String) : Option (List (Option Output.Told)) :=
  told? (Document.read text).draft

/-! ## Doubles -/

theorem Decimal.Layout.render_special (l : Layout) {x : Float} (h : isFinite x = false) :
    l.render x ∈ ["NaN", "inf", "-inf"] := by
  have hle : 0x7FF0000000000000 ≤ x.toBits.toNat % 0x8000000000000000 :=
    Nat.not_lt.1 (of_decide_eq_false h)
  unfold render bitsText
  simp only
  split
  next => decide
  next hnan =>
    have hinfinite : x.toBits.toNat % 0x8000000000000000 = 0x7FF0000000000000 := by omega
    simp only [if_pos hinfinite]
    split <;> decide

namespace Json

variable {x : Float}

theorem text_ofBits_of_finite (h : Decimal.isFinite x = true) :
    (Spelling.ofBits x.toBits.toNat).text = floatText x := by
  rw [floatText, if_pos h]
  exact Spelling.text_ofBits (of_decide_eq_true h)

theorem numberText_floatText (h : Decimal.isFinite x = true) : NumberText (floatText x) :=
  text_ofBits_of_finite h ▸ (Spelling.proper_ofBits _).numberText

theorem pointed_floatText (h : Decimal.isFinite x = true) : Pointed (floatText x) :=
  text_ofBits_of_finite h ▸ Spelling.pointed_text (Spelling.not_integer_ofBits _)

theorem not_pointed_intText (n : Int64) : ¬Pointed (intText n.toInt) := by
  have hdigit : ∀ c : Char, c.isDigit = true → c ≠ '.' ∧ c ≠ 'e' ∧ c ≠ 'E' := by
    intro c hc
    refine ⟨?_, ?_, ?_⟩ <;>
    · rintro rfl
      cases hc
  have hplain : ∀ c ∈ intText n.toInt, c ≠ '.' ∧ c ≠ 'e' ∧ c ≠ 'E' :=
    (Text.written_renderInt64 n).forall_mem (by decide) (by decide) hdigit
  rintro (hc | hc | hc)
  · exact (hplain _ hc).1 rfl
  · exact (hplain _ hc).2.1 rfl
  · exact (hplain _ hc).2.2 rfl

/-- What is spelled with a point or an exponent is not read as an integer. -/
theorem told?_ofNumber {s : Spelling} (h : s.fraction ≠ [] ∨ s.exponent ≠ none) :
    Output.told? (.ofNumber s.literal.number) = some .finite := by
  have hnot : ¬(s.literal.fraction = [] ∧ s.literal.exponent = none) := by
    rintro ⟨hfraction, hexponent⟩
    rcases h with hne | hne
    · exact hne (digitValues_eq_nil.1 hfraction)
    · exact hne (Option.map_eq_none_iff.1 hexponent)
  rw [Literal.number, if_neg hnot, Literal.float]
  split <;> rfl

theorem reads_finite (h : Decimal.isFinite x = true) :
    ∃ d, Reads (floatText x) d ∧ Output.told? d = some .finite := by
  -- Which double is read does not matter, so no bound on `x` is needed: the spelling alone decides.
  refine ⟨_, reads_number (head_floatText h) fun rest hrest => ?_,
    told?_ofNumber (Spelling.not_integer_ofBits x.toBits.toNat)⟩
  rw [← text_ofBits_of_finite h, Draft.readNumber,
    Spelling.literal_text (Spelling.proper_ofBits _) hrest]

end Json

/-! ## Outputs -/

theorem mapM_map_of_eq_some {α β γ : Type} {f : β → Option γ} {g : α → β} {h : α → γ}
    (heq : ∀ a, f (g a) = some (h a)) (as : List α) : (as.map g).mapM f = some (as.map h) := by
  rw [List.mapM_map]
  simp only [Function.comp_def, heq]
  exact List.mapM_pure

theorem Output.Form.wellFormed {o : Output} {cs : List Char} (h : o.Form cs) : WellFormed cs := by
  cases h with
  | integer hnumber => exact .number hnumber
  | finite _ hnumber => exact .number hnumber
  | special _ _ hquotes => exact .text hquotes.quotation
  | @history entries _ harray =>
    exact .array (List.forall_mem_map.2 fun s _ => .text (quotes_stringText s).quotation) harray

section Layout

variable {text : Nat → Value → List Char} (hlayout : IsFullLayout text) (level : Nat)

include hlayout

namespace Output

theorem form_toJson (o : Output) : o.Form (text level o.toJson) := by
  cases o with
  | integer n =>
    rw [toJson, Value.int64, hlayout.int]
    exact .integer (numberText_intText _) (not_pointed_intText n)
  | float x =>
    cases hfinite : Decimal.isFinite x with
    | true =>
      rw [toJson, if_pos hfinite, hlayout.float]
      exact .finite hfinite (numberText_floatText hfinite) (pointed_floatText hfinite)
    | false =>
      rw [toJson, hfinite, if_neg Bool.false_ne_true, hlayout.str]
      exact .special hfinite (Decimal.Layout.render_special _ hfinite) (quotes_stringText _)
  | history entries =>
    have hitems : (entries.map Value.str).map (text (level + 1)) = entries.map stringText := by
      rw [List.map_map]
      exact List.map_congr_left fun s _ => hlayout.str (level + 1) s
    exact .history (hitems ▸ hlayout.arr level (entries.map .str))

/-- What is read of the text of an output tells the output. -/
theorem reads_toJson (o : Output) :
    ∃ d, Reads (text level o.toJson) d ∧ told? d = some o.told := by
  cases o with
  | integer n =>
    refine ⟨_, hlayout.reads_int64 level n, ?_⟩
    rw [told?, Int64.ofInt_toInt]
    rfl
  | float x =>
    cases hfinite : Decimal.isFinite x with
    | true =>
      rw [toJson, if_pos hfinite, hlayout.float, told, if_pos hfinite]
      exact reads_finite hfinite
    | false =>
      rw [toJson, told, hfinite]
      exact ⟨_, hlayout.reads_str level _, rfl⟩
  | history entries =>
    have hitems : List.Forall₂ (fun v d => Reads (text (level + 1) v) d) (entries.map .str)
        (entries.map .str) :=
      List.forall₂_map_left_iff.2 (List.forall₂_map_right_iff.2
        (List.forall₂_same.2 fun s _ => hlayout.reads_str (level + 1) s))
    refine ⟨_, hlayout.reads_arr level hitems, ?_⟩
    have htexts : (entries.map Draft.str).mapM Draft.text? = some (entries.map id) :=
      mapM_map_of_eq_some (f := Draft.text?) (fun _ => rfl) entries
    rw [told?, htexts, List.map_id]
    rfl

end Output

/-! ## Steps and reports -/

theorem Step.reads_toJson (s : Step) :
    ∃ d, Reads (text level s.toJson) d ∧ told? d = some (s.output.map Output.told) := by
  have hoperation := hlayout.reads_str (level + 1) s.operation
  have hvalue := hlayout.reads_int64 (level + 1) s.value
  cases houtput : s.output with
  | none =>
    rw [toJson, houtput]
    exact ⟨_, hlayout.reads_obj level
      [("operation", .str s.operation), ("value", .int s.value.toInt)]
      (.cons ⟨rfl, hoperation⟩ (.cons ⟨rfl, hvalue⟩ .nil)), rfl⟩
  | some output =>
    obtain ⟨d, hd, htold⟩ := output.reads_toJson hlayout (level + 1)
    rw [toJson, houtput]
    refine ⟨_, hlayout.reads_obj level
      [("operation", .str s.operation), ("value", .int s.value.toInt), ("output", d)]
      (.cons ⟨rfl, hoperation⟩ (.cons ⟨rfl, hvalue⟩ (.cons ⟨rfl, hd⟩ .nil))), ?_⟩
    exact congrArg (Option.map some) htold

namespace Report

theorem reads_toJson (r : Report) :
    ∃ d, Reads (text level r.toJson) d ∧
      told? d = some (r.steps.map fun s => s.output.map Output.told) := by
  choose draft hdraft htold using Step.reads_toJson hlayout (level + 1 + 1)
  have hsteps : Reads (text (level + 1) (.arr (r.steps.map Step.toJson)))
      (.arr (r.steps.map draft) true) := by
    refine hlayout.reads_arr (level + 1) ?_
    rw [List.forall₂_map_left_iff, List.forall₂_map_right_iff, List.forall₂_same]
    exact fun s _ => hdraft s
  exact ⟨_, hlayout.reads_obj level
    [("variant", .str r.variant.name), ("initial", .int r.initial.toInt),
      ("steps", .arr (r.steps.map draft) true), ("final_value", .int r.finalValue.toInt)]
    (.cons ⟨rfl, hlayout.reads_str _ r.variant.name⟩
      (.cons ⟨rfl, hlayout.reads_int64 _ r.initial⟩
        (.cons ⟨rfl, hsteps⟩ (.cons ⟨rfl, hlayout.reads_int64 _ r.finalValue⟩ .nil)))),
    mapM_map_of_eq_some htold r.steps⟩

theorem outputsIn_text (r : Report) :
    outputsIn (String.ofList (text level r.toJson)) =
      some (r.steps.map fun s => s.output.map Output.told) := by
  obtain ⟨d, hd, htold⟩ := r.reads_toJson hlayout level
  have hread := read_of_reads hd blank_nil blank_nil (s := String.ofList (text level r.toJson))
    (by rw [String.toList_ofList, List.append_nil, List.nil_append])
  rw [outputsIn, hread]
  exact htold

end Report

end Layout

/-- Outputs with the same text are told to be the same. -/
theorem Output.told_of_compact {o o' : Output} (h : o.toJson.compact = o'.toJson.compact) :
    o.told = o'.told := by
  obtain ⟨d, hd, htold⟩ := o.reads_toJson isFullLayout_compact 0
  obtain ⟨d', hd', htold'⟩ := o'.reads_toJson isFullLayout_compact 0
  have hsame : d = d' := by
    rw [String.ofList_inj.1 h] at hd
    exact hd.unique hd'
  rw [hsame, htold'] at htold
  exact (Option.some.inj htold).symm

/-- In plain text a double can look like an integer. -/
example : (Output.float 3).render = (Output.integer 3).render ∧
    (Output.float 3).toJson.compact ≠ (Output.integer 3).toJson.compact := by
  decide +kernel

/-- **The outputs of a report can be told apart from its JSON.** The text of every output is well
formed and shows the kind of the output; outputs with the same text are of the same kind, and
integers and histories with the same text are the same. So the text of a report tells the outputs
of its steps. -/
theorem Report.outputs_told :
    (∀ o : Output, o.Form o.toJson.compact.toList ∧ WellFormed o.toJson.compact.toList) ∧
    (∀ o o' : Output, o.toJson.compact = o'.toJson.compact → o.told = o'.told) ∧
    ∀ r : Report,
      outputsIn r.toJson.compact = some (r.steps.map fun s => s.output.map Output.told) ∧
      outputsIn r.toJson.pretty = some (r.steps.map fun s => s.output.map Output.told) := by
  refine ⟨fun o => ?_, fun o o' h => Output.told_of_compact h, fun r => ⟨?_, ?_⟩⟩
  · have hform := o.form_toJson isFullLayout_compact 0
    rw [Value.compact, String.toList_ofList]
    exact ⟨hform, hform.wellFormed⟩
  · exact r.outputsIn_text isFullLayout_compact 0
  · exact r.outputsIn_text isFullLayout_pretty 0

end Abacus
