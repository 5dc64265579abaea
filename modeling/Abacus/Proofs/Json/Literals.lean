import Abacus.Json.Draft
import Abacus.Json.Writer
import Abacus.Proofs.Text.Digits

/-!
# Numbers survive writing

The reader takes the longest number at the start of a text. A number that was written is taken as a
whole if what stands behind it cannot continue a number (`Stops`), and then the reader has its sign
and its digits (`Spelling.literal_text`).

From these an integer of 64 bits gets its value back (`readNumber_intText`). For the others there is
only a bound here: a number is within reach of a double if its digits before the point and its
exponent are few (`Literal.exponent_scaled`).
-/

namespace Abacus.Json

open Abacus.Text

/-- A number as it is spelled. -/
structure Spelling where
  negative : Bool
  whole : List Char
  fraction : List Char
  exponent : Option (Bool × List Char)

/-- The text does not continue a number in front of it. -/
def Stops (rest : List Char) : Prop :=
  ∀ c ∈ rest.head?, c.isDigit = false ∧ c ≠ '.' ∧ c ≠ 'e' ∧ c ≠ 'E'

/-- The digits as numbers. -/
def digitValues (cs : List Char) : List Nat := cs.map fun c => c.toNat - 48

namespace Spelling

/-- The point and the digits behind it. -/
def fractionText (s : Spelling) : List Char :=
  if s.fraction = [] then [] else '.' :: s.fraction

/-- The exponent with its sign. -/
def exponentText (s : Spelling) : List Char :=
  match s.exponent with
  | none => []
  | some (negative, ds) => 'e' :: (if negative then '-' else '+') :: ds

/-- The text without the sign. -/
def magnitudeText (s : Spelling) : List Char := s.whole ++ (s.fractionText ++ s.exponentText)

def text (s : Spelling) : List Char :=
  if s.negative then '-' :: s.magnitudeText else s.magnitudeText

/-- The digits are digits, and the grammar of numbers admits them where they stand. -/
structure Proper (s : Spelling) : Prop where
  whole : ∀ c ∈ s.whole, c.isDigit = true
  whole_ne_nil : s.whole ≠ []
  leading : s.whole.head? = some '0' → s.whole = ['0']
  fraction : ∀ c ∈ s.fraction, c.isDigit = true
  exponent : ∀ negative ds, s.exponent = some (negative, ds) →
    ds ≠ [] ∧ ∀ c ∈ ds, c.isDigit = true

/-- The number as the reader keeps it. -/
def literal (s : Spelling) : Literal where
  negative := s.negative
  whole := digitValues s.whole
  fraction := digitValues s.fraction
  exponent := s.exponent.map fun (negative, ds) => (negative, digitValues ds)

end Spelling

/-! ## Runs of digits -/

theorem digitRun_of_head {cs : List Char} (h : ∀ c ∈ cs.head?, c.isDigit = false) :
    digitRun cs = ([], cs) := by
  cases cs with
  | nil => rfl
  | cons c cs =>
    have hc : digit? c = none := digit?_eq_none (h c rfl)
    simp only [digitRun, hc]

theorem digitRun_append {cs rest : List Char} (hcs : ∀ c ∈ cs, c.isDigit = true)
    (hrest : ∀ c ∈ rest.head?, c.isDigit = false) :
    digitRun (cs ++ rest) = (digitValues cs, rest) := by
  induction cs with
  | nil => exact digitRun_of_head hrest
  | cons c cs ih =>
    have hc := digit?_of_isDigit (hcs c List.mem_cons_self)
    have htail := ih fun d hd => hcs d (List.mem_cons_of_mem c hd)
    simp only [List.cons_append, digitRun, hc, htail]
    rfl

theorem ofDigits_digitValues (cs : List Char) :
    ofDigits (digitValues cs) = Nat.ofDigitChars 10 cs 0 := by
  rw [ofDigits, digitValues, List.foldl_map]
  rfl

@[simp] theorem length_digitValues (cs : List Char) : (digitValues cs).length = cs.length :=
  List.length_map ..

theorem digitValues_eq_nil {cs : List Char} : digitValues cs = [] ↔ cs = [] :=
  List.map_eq_nil_iff

/-! ## The parts of a number -/

theorem wholePart_append {cs rest : List Char} (hcs : ∀ c ∈ cs, c.isDigit = true) (hne : cs ≠ [])
    (hleading : cs.head? = some '0' → cs = ['0'])
    (hrest : ∀ c ∈ rest.head?, c.isDigit = false) :
    wholePart (cs ++ rest) = some (digitValues cs, rest) := by
  rw [wholePart, digitRun_append hcs hrest]
  cases cs with
  | nil => exact absurd rfl hne
  | cons c cs =>
    cases cs with
    | nil =>
      simp only [digitValues, List.map_cons, List.map_nil]
      split <;> simp_all
    | cons d cs =>
      have hzero : c.toNat - 48 ≠ 0 := by
        intro h
        have hc := (toNat_of_isDigit (hcs c List.mem_cons_self)).1
        have hle : c.toNat ≤ 48 := Nat.le_of_sub_eq_zero h
        have h0 : c = '0' := Char.toNat_inj.1 (Nat.le_antisymm hle hc)
        cases hleading (congrArg some h0)
      simp only [digitValues, List.map_cons]
      split <;> simp_all

theorem fractionPart_append {cs rest : List Char} (hcs : ∀ c ∈ cs, c.isDigit = true)
    (hne : cs ≠ []) (hrest : ∀ c ∈ rest.head?, c.isDigit = false) :
    fractionPart ('.' :: (cs ++ rest)) = some (digitValues cs, rest) := by
  rw [fractionPart, digitRun_append hcs hrest]
  split
  next heq =>
    rw [Prod.mk.injEq, digitValues_eq_nil] at heq
    exact absurd heq.1 hne
  next => rfl

theorem fractionPart_of_head {cs : List Char} (h : ∀ c ∈ cs.head?, c ≠ '.') :
    fractionPart cs = some ([], cs) := by
  unfold fractionPart
  split
  next => exact absurd rfl (h '.' rfl)
  next => rfl

theorem exponentPart_append {negative : Bool} {cs rest : List Char}
    (hcs : ∀ c ∈ cs, c.isDigit = true) (hne : cs ≠ [])
    (hrest : ∀ c ∈ rest.head?, c.isDigit = false) :
    exponentPart ('e' :: (if negative then '-' else '+') :: (cs ++ rest)) =
      some (some (negative, digitValues cs), rest) := by
  obtain ⟨d, ds, hds⟩ := List.exists_cons_of_ne_nil (mt digitValues_eq_nil.1 hne)
  cases negative <;>
    simp only [exponentPart, exponentDigits, Bool.false_eq_true, if_false, if_true,
      digitRun_append hcs hrest, hds] <;> rfl

theorem exponentPart_of_head {cs : List Char} (h : ∀ c ∈ cs.head?, c ≠ 'e' ∧ c ≠ 'E') :
    exponentPart cs = some (none, cs) := by
  unfold exponentPart
  split
  next => exact absurd rfl (h 'e' rfl).1
  next => exact absurd rfl (h 'E' rfl).2
  next => rfl

/-! ## Whole numbers -/

namespace Spelling

variable {s : Spelling} {rest : List Char}

theorem head_exponentText (hrest : Stops rest) :
    ∀ c ∈ (s.exponentText ++ rest).head?, c.isDigit = false ∧ c ≠ '.' := by
  intro c hc
  unfold exponentText at hc
  split at hc
  next => exact ⟨(hrest c hc).1, (hrest c hc).2.1⟩
  next =>
    cases hc
    exact ⟨rfl, by decide⟩

theorem exponentPart_exponentText (h : s.Proper) (hrest : Stops rest) :
    exponentPart (s.exponentText ++ rest) = some (s.literal.exponent, rest) := by
  cases he : s.exponent with
  | none =>
    simp only [exponentText, literal, he]
    exact exponentPart_of_head fun c hc => (hrest c hc).2.2
  | some e =>
    obtain ⟨negative, ds⟩ := e
    obtain ⟨hne, hds⟩ := h.exponent negative ds he
    simp only [exponentText, literal, he]
    exact exponentPart_append hds hne fun c hc => (hrest c hc).1

theorem fractionPart_fractionText (h : s.Proper) (hrest : Stops rest) :
    fractionPart (s.fractionText ++ (s.exponentText ++ rest)) =
      some (s.literal.fraction, s.exponentText ++ rest) := by
  have hhead := head_exponentText (s := s) hrest
  by_cases hf : s.fraction = []
  · simp only [fractionText, literal, hf, if_true, List.nil_append]
    exact fractionPart_of_head fun c hc => (hhead c hc).2
  · simp only [fractionText, literal, if_neg hf]
    exact fractionPart_append h.fraction hf fun c hc => (hhead c hc).1

theorem head_fractionText (hrest : Stops rest) :
    ∀ c ∈ (s.fractionText ++ (s.exponentText ++ rest)).head?, c.isDigit = false := by
  intro c hc
  unfold fractionText at hc
  split at hc
  next => exact (head_exponentText hrest c hc).1
  next =>
    cases hc
    rfl

theorem unsignedLiteral_magnitudeText (h : s.Proper) (hrest : Stops rest) :
    unsignedLiteral s.negative (s.magnitudeText ++ rest) = some (s.literal, rest) := by
  have hwhole := wholePart_append h.whole h.whole_ne_nil h.leading
    (@head_fractionText s rest hrest)
  have hfraction := fractionPart_fractionText h hrest
  have hexponent := exponentPart_exponentText h hrest
  simp only [unsignedLiteral, magnitudeText, List.append_assoc, hwhole, hfraction, hexponent,
    Option.bind_eq_bind, Option.bind_some]
  rfl

/-- A number starts with a digit behind its sign. -/
theorem head_magnitudeText (h : s.Proper) :
    ∃ c cs, s.magnitudeText = c :: cs ∧ c.isDigit = true := by
  obtain ⟨c, cs, hcs⟩ := List.exists_cons_of_ne_nil h.whole_ne_nil
  refine ⟨c, cs ++ (s.fractionText ++ s.exponentText), ?_, h.whole c (by simp [hcs])⟩
  rw [magnitudeText, hcs, List.cons_append]

/-- A number starts with its sign or a digit. -/
theorem head_text (h : s.Proper) :
    ∃ c cs, s.text = c :: cs ∧ (c = '-' ∨ c.isDigit = true) := by
  unfold text
  split
  next => exact ⟨_, _, rfl, .inl rfl⟩
  next =>
    obtain ⟨c, cs, hcs, hc⟩ := head_magnitudeText h
    exact ⟨c, cs, hcs, .inr hc⟩

/-- A number that was spelled is read as a whole. -/
theorem literal_text (h : s.Proper) (hrest : Stops rest) :
    Json.literal (s.text ++ rest) = some (s.literal, rest) := by
  have hread := unsignedLiteral_magnitudeText h hrest
  unfold text
  cases hn : s.negative with
  | true =>
    rw [hn] at hread
    simp only [if_true, List.cons_append, Json.literal]
    exact hread
  | false =>
    rw [hn] at hread
    obtain ⟨c, cs, hcs, hc⟩ := head_magnitudeText h
    simp only [Bool.false_eq_true, if_false]
    rw [← hread, hcs, List.cons_append]
    unfold Json.literal
    split
    next heq =>
      cases (List.cons.inj heq).1
      cases hc
    next => rfl

end Spelling

/-! ## Integers -/

namespace Spelling

/-- An integer as it is spelled. -/
def ofInt (n : Int) : Spelling := ⟨decide (n < 0), natDigits n.natAbs, [], none⟩

theorem proper_ofInt (n : Int) : (ofInt n).Proper where
  whole _ hc := isDigit_of_mem_natDigits hc
  whole_ne_nil := natDigits_ne_nil n.natAbs
  leading h := by
    by_cases hn : n.natAbs = 0
    · rw [ofInt, hn]
      rfl
    · exact absurd rfl (head_natDigits (Nat.pos_of_ne_zero hn) '0' h)
  fraction _ hc := absurd hc List.not_mem_nil
  exponent _ _ h := by cases h

theorem text_ofInt (n : Int) : (ofInt n).text = intText n := by
  have hmagnitude : (ofInt n).magnitudeText = natDigits n.natAbs := List.append_nil _
  unfold text intText
  rw [hmagnitude]
  by_cases hn : n < 0
  · rw [toList_renderInt_of_neg hn, if_pos (by simpa [ofInt] using hn)]
  · rw [toList_renderInt_of_nonneg (by omega), if_neg (by simpa [ofInt] using hn)]

theorem number_ofInt {n : Int} (hlow : -0x8000000000000000 ≤ n) (hhigh : n < 0x10000000000000000) :
    (ofInt n).literal.number = .int n := by
  have hdigits : ofDigits (ofInt n).literal.whole = n.natAbs := by
    rw [literal, ofDigits_digitValues]
    exact ofDigitChars_natDigits n.natAbs
  unfold Literal.number
  rw [if_pos ⟨rfl, rfl⟩, hdigits]
  by_cases hn : n < 0
  · have hnegative : (ofInt n).literal.negative = true := decide_eq_true hn
    rw [if_pos hnegative, if_pos (by omega)]
    congr 1
    omega
  · have hnegative : ¬(ofInt n).literal.negative = true := by simpa [literal, ofInt] using hn
    rw [if_neg hnegative, if_pos (by omega)]
    congr 1
    omega

end Spelling

/-- An integer of 64 bits, signed or unsigned, is read as it was written. -/
theorem readNumber_intText {n : Int} (hlow : -0x8000000000000000 ≤ n)
    (hhigh : n < 0x10000000000000000) {rest : List Char} (hrest : Stops rest) :
    Draft.readNumber (intText n ++ rest) = (.int n, some rest) := by
  have hliteral := Spelling.literal_text (Spelling.proper_ofInt n) hrest
  rw [← Spelling.text_ofInt, Draft.readNumber, hliteral]
  simp only [Spelling.number_ofInt hlow hhigh, Draft.ofNumber]

/-! ## The reach of a double -/

namespace Scaled

theorem exponent_takeWhole (s : Scaled) (ds : List Nat) :
    (s.takeWhole ds).exponent ≤ s.exponent + ds.length := by
  induction ds generalizing s with
  | nil => simp [takeWhole]
  | cons d ds ih =>
    unfold takeWhole
    split
    next =>
      have hrest := ih { s with significand := 10 * s.significand + d }
      simp only at hrest
      rw [List.length_cons]
      omega
    next => simp

theorem exponent_takeFraction (s : Scaled) (ds : List Nat) :
    (s.takeFraction ds).exponent ≤ s.exponent := by
  induction ds generalizing s with
  | nil => exact Int.le_refl _
  | cons d ds ih =>
    unfold takeFraction
    split
    next =>
      have hrest := ih ⟨10 * s.significand + d, s.exponent - 1⟩
      simp only at hrest
      omega
    next => exact Int.le_refl _

end Scaled

namespace Literal

/-- The power of ten of an exponent. -/
def power (l : Literal) : Int :=
  match l.exponent with
  | none => 0
  | some (true, ds) => -(ofDigits ds : Int)
  | some (false, ds) => ofDigits ds

/-- The power of ten that goes with the digits of a literal is at most the number of digits before
the point and what the exponent says. -/
theorem exponent_scaled (l : Literal) : l.scaled.exponent ≤ l.whole.length + l.power := by
  have hwhole := Scaled.exponent_takeWhole {} l.whole
  have hfraction := Scaled.exponent_takeFraction (({} : Scaled).takeWhole l.whole) l.fraction
  simp only at hwhole
  unfold scaled power
  cases he : l.exponent with
  | none => simp only; omega
  | some e =>
    obtain ⟨negative, ds⟩ := e
    cases negative <;> simp only <;> omega

end Literal

end Abacus.Json
