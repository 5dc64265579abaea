import Abacus.Proofs.Decimal.Shortest
import Abacus.Proofs.Doubles
import Abacus.Proofs.Json.Literals

/-!
# Doubles are written as numbers

The text of a finite double has digits on both sides of its point or an exponent, so it is a number
of the grammar and never an integer (`Spelling.text_ofBits`, `Spelling.not_integer_ofBits`). The
layout decides between four forms; `Spelling.ofDecimal` follows it case by case.

How far the exponent of the text can go depends on the double alone (`exponent_ofBits`).
-/

namespace Abacus.Json

open Abacus.Text Abacus.Decimal

namespace Spelling

/-- A decimal as it is spelled. -/
def ofDecimal (negative : Bool) (d : Digits) : Spelling :=
  if -5 ≤ d.point - 1 ∧ d.point - 1 ≤ 15 then
    if d.point ≤ 0 then ⟨negative, ['0'], Layout.zeros (-d.point).toNat ++ d.digits, none⟩
    else if d.digits.length ≤ d.point.toNat then
      ⟨negative, d.digits ++ Layout.zeros (d.point.toNat - d.digits.length), ['0'], none⟩
    else ⟨negative, d.digits.take d.point.toNat, d.digits.drop d.point.toNat, none⟩
  else
    ⟨negative, d.digits.take 1, d.digits.drop 1,
      some (decide (d.point - 1 < 0), natDigits (d.point - 1).natAbs)⟩

/-- A finite double as it is spelled. -/
def ofBits (bits : Nat) : Spelling :=
  let negative := decide (bits / 0x8000000000000000 % 2 = 1)
  let magnitude := bits % 0x8000000000000000
  if magnitude = 0 then ⟨negative, ['0'], ['0'], none⟩
  else ofDecimal negative ((Binary.ofBits magnitude).shortest .toEven)

variable {negative : Bool} {d : Digits} {bits : Nat}

/-! ## Decimals -/

theorem isDigit_of_mem_zeros {n : Nat} {c : Char} (h : c ∈ Layout.zeros n) : c.isDigit = true := by
  rw [List.eq_of_mem_replicate h]
  rfl

@[simp] theorem negative_ofDecimal (negative : Bool) (d : Digits) :
    (ofDecimal negative d).negative = negative := by
  unfold ofDecimal
  split
  next =>
    split
    next => rfl
    next => split <;> rfl
  next => rfl

theorem magnitudeText_ofDecimal (h : d.Leads) (negative : Bool) :
    (ofDecimal negative d).magnitudeText = Layout.json.digitsText d := by
  obtain ⟨c, cs, hcs, hc⟩ := h.first
  have hjson : Layout.json.digitsText d =
      if -5 ≤ d.point - 1 ∧ d.point - 1 ≤ 15 then Layout.json.positionalText d
      else Layout.scientificText d := rfl
  rw [hjson]
  unfold ofDecimal
  by_cases hposition : -5 ≤ d.point - 1 ∧ d.point - 1 ≤ 15
  · rw [if_pos hposition, if_pos hposition]
    unfold Layout.positionalText
    by_cases hpoint : d.point ≤ 0
    · rw [if_pos hpoint, if_pos hpoint]
      simp [magnitudeText, fractionText, exponentText, hcs]
    · rw [if_neg hpoint, if_neg hpoint]
      by_cases hlength : d.digits.length ≤ d.point.toNat
      · simp only [if_pos hlength]
        simp [magnitudeText, fractionText, exponentText, Layout.json]
      · have hdrop : d.digits.drop d.point.toNat ≠ [] := by
          rw [Ne, List.drop_eq_nil_iff]
          exact hlength
        simp only [if_neg hlength]
        simp [magnitudeText, fractionText, exponentText, hdrop]
  · rw [if_neg hposition, if_neg hposition]
    unfold Layout.scientificText Layout.exponentText
    by_cases hsign : d.point - 1 < 0 <;> cases cs <;>
      simp [magnitudeText, fractionText, exponentText, hcs, hsign]

theorem proper_ofDecimal (h : d.Leads) (negative : Bool) : (ofDecimal negative d).Proper := by
  obtain ⟨c, cs, hcs, hc⟩ := h.first
  have hleading : ∀ ds, ds.head? = some c → ds.head? = some '0' → ds = ['0'] := by
    intro ds hds hzero
    rw [hds] at hzero
    exact absurd (Option.some.inj hzero) hc
  unfold ofDecimal
  split
  next =>
    split
    next =>
      refine ⟨?_, by simp, fun _ => rfl, fun d hd => ?_, fun _ _ he => by cases he⟩
      · intro d hd
        rw [List.mem_singleton.1 hd]
        rfl
      · rcases List.mem_append.1 hd with hd | hd
        · exact isDigit_of_mem_zeros hd
        · exact h.digits d hd
    next hpoint =>
      split
      next =>
        refine ⟨fun d hd => ?_, by simp [hcs], hleading _ (by simp [hcs]), ?_,
          fun _ _ he => by cases he⟩
        · rcases List.mem_append.1 hd with hd | hd
          · exact h.digits d hd
          · exact isDigit_of_mem_zeros hd
        · intro d hd
          rw [List.mem_singleton.1 hd]
          rfl
      next =>
        obtain ⟨n, hn⟩ : ∃ n, d.point.toNat = n + 1 := ⟨d.point.toNat - 1, by omega⟩
        refine ⟨fun d hd => h.digits d (List.mem_of_mem_take hd), by simp [hcs, hn],
          hleading _ (by simp [hcs, hn]), fun d hd => h.digits d (List.mem_of_mem_drop hd),
          fun _ _ he => by cases he⟩
  next =>
    refine ⟨fun d hd => h.digits d (List.mem_of_mem_take hd), by simp [hcs],
      hleading _ (by simp [hcs]), fun d hd => h.digits d (List.mem_of_mem_drop hd), ?_⟩
    intro negative ds he
    cases he
    exact ⟨natDigits_ne_nil _, fun _ hd => isDigit_of_mem_natDigits hd⟩

/-- A decimal is never spelled as an integer. -/
theorem not_integer_ofDecimal (h : d.Leads) (negative : Bool) :
    (ofDecimal negative d).fraction ≠ [] ∨ (ofDecimal negative d).exponent ≠ none := by
  obtain ⟨c, cs, hcs, -⟩ := h.first
  unfold ofDecimal
  split
  next =>
    refine .inl ?_
    split
    next => simp [hcs]
    next =>
      split
      next => simp
      next hlength =>
        rw [Ne, List.drop_eq_nil_iff]
        exact hlength
  next => exact .inr nofun

/-- The power of ten that goes with the digits of a decimal. -/
theorem exponent_ofDecimal (negative : Bool) (d : Digits) :
    (ofDecimal negative d).literal.scaled.exponent ≤ max 16 d.point := by
  refine Int.le_trans (Literal.exponent_scaled _) ?_
  unfold ofDecimal
  split
  next =>
    split
    next =>
      simp only [literal, Literal.power, length_digitValues, List.length_singleton, Option.map_none]
      omega
    next =>
      split
      next =>
        simp only [literal, Literal.power, length_digitValues, List.length_append, Layout.zeros,
          List.length_replicate, Option.map_none]
        omega
      next =>
        simp only [literal, Literal.power, length_digitValues, List.length_take, Option.map_none]
        omega
  next =>
    have hvalue : ofDigits (digitValues (natDigits (d.point - 1).natAbs)) =
        (d.point - 1).natAbs := by
      rw [ofDigits_digitValues]
      exact ofDigitChars_natDigits _
    by_cases hsign : d.point - 1 < 0 <;>
      simp only [literal, Literal.power, length_digitValues, List.length_take, Option.map_some,
        hsign, decide_true, decide_false, hvalue] <;> omega

/-! ## Doubles -/

/-- A magnitude above zero has a significand above zero. -/
theorem mantissa_ofBits_pos (hpos : 0 < bits) (hlt : bits < 0x8000000000000000) :
    0 < (Binary.ofBits bits).mantissa := by
  unfold Binary.ofBits
  simp only
  split
  next => simp only; omega
  next => simp only; omega

theorem leads_ofBits (hzero : bits % 0x8000000000000000 ≠ 0) :
    ((Binary.ofBits (bits % 0x8000000000000000)).shortest .toEven).Leads :=
  Binary.leads_shortest (mantissa_ofBits_pos (by omega) (by omega)) .toEven

theorem text_ofBits (hfinite : bits % 0x8000000000000000 < 0x7FF0000000000000) :
    (ofBits bits).text = Layout.json.bitsText bits := by
  have hmagnitude : (ofBits bits).magnitudeText =
      Layout.json.magnitudeText (bits % 0x8000000000000000) := by
    unfold ofBits Layout.magnitudeText
    by_cases hzero : bits % 0x8000000000000000 = 0
    · simp only [if_pos hzero]
      rfl
    · simp only [if_neg hzero]
      exact magnitudeText_ofDecimal (leads_ofBits hzero) _
  have hnegative : (ofBits bits).negative = decide (bits / 0x8000000000000000 % 2 = 1) := by
    unfold ofBits
    simp only
    split
    next => rfl
    next => exact negative_ofDecimal _ _
  have hnan : ¬0x7FF0000000000000 < bits % 0x8000000000000000 := by omega
  have hinfinite : ¬bits % 0x8000000000000000 = 0x7FF0000000000000 := by omega
  unfold text Layout.bitsText
  simp only [hmagnitude, hnegative, decide_eq_true_eq, if_neg hnan, if_neg hinfinite]

theorem proper_ofBits (bits : Nat) : (ofBits bits).Proper := by
  unfold ofBits
  simp only
  split
  next =>
    refine ⟨?_, by simp, fun _ => rfl, ?_, fun _ _ he => by cases he⟩ <;>
    · intro c hc
      rw [List.mem_singleton.1 hc]
      rfl
  next hzero => exact proper_ofDecimal (leads_ofBits hzero) _

theorem not_integer_ofBits (bits : Nat) :
    (ofBits bits).fraction ≠ [] ∨ (ofBits bits).exponent ≠ none := by
  unfold ofBits
  simp only
  split
  next => exact .inl (by simp)
  next hzero => exact not_integer_ofDecimal (leads_ofBits hzero) _

/-- A magnitude below two to the 66 is below `10^20`, its interval included. -/
theorem upper_ofBits_lt (hlt : bits < 0x4410000000000000) :
    (Binary.ofBits bits).upper < 10 ^ 20 * (Binary.ofBits bits).den := by
  have hmantissa : (Binary.ofBits bits).mantissa < 2 ^ 53 := by
    unfold Binary.ofBits
    simp only
    split <;> simp only <;> omega
  have hexponent : (Binary.ofBits bits).exponent.toNat ≤ 13 := by
    unfold Binary.ofBits
    simp only
    split <;> simp only <;> omega
  have hscale : (Binary.ofBits bits).scale ≤ 2 ^ 13 := Nat.pow_le_pow_right (by decide) hexponent
  have hden : 4 ≤ (Binary.ofBits bits).den := Nat.le_mul_of_pos_right 4 (Nat.two_pow_pos _)
  calc (Binary.ofBits bits).upper ≤ (4 * 2 ^ 53) * 2 ^ 13 := Nat.mul_le_mul (by omega) hscale
    _ < 10 ^ 20 * 4 := by decide
    _ ≤ 10 ^ 20 * (Binary.ofBits bits).den := Nat.mul_le_mul_left _ hden

theorem point_ofBits (hpos : 0 < bits) (hlt : bits < 0x4410000000000000) :
    ((Binary.ofBits bits).shortest .toEven).point ≤ 20 := by
  have hmantissa := mantissa_ofBits_pos hpos (by omega)
  apply Int.not_lt.1
  intro hpoint
  have hreach := Binary.point_shortest hmantissa .toEven (n := 20) (by omega)
  exact absurd (upper_ofBits_lt hlt) (Nat.not_lt.2 hreach)

/-- The power of ten that goes with the digits of a double below two to the 66. -/
theorem exponent_ofBits (hlt : bits % 0x8000000000000000 < 0x4410000000000000) :
    (ofBits bits).literal.scaled.exponent ≤ 20 := by
  unfold ofBits
  simp only
  split
  next =>
    refine Int.le_trans (Literal.exponent_scaled _) ?_
    simp only [literal, Literal.power, length_digitValues, Option.map_none]
    decide
  next hzero =>
    have hpoint := point_ofBits (Nat.pos_of_ne_zero hzero) hlt
    exact Int.le_trans (exponent_ofDecimal _ _) (Int.max_le.2 ⟨by decide, hpoint⟩)

end Spelling

/-! ## Reading doubles -/

theorem Scaled.magnitude?_of_exponent_le {s : Scaled} (h : s.exponent ≤ 20) :
    ∃ x, s.magnitude? = some x := by
  unfold magnitude?
  simp only
  split
  next => exact ⟨_, rfl⟩
  next =>
    rw [if_pos (by omega), Doubles.isInf_product _ (by omega)]
    exact ⟨_, rfl⟩

theorem Literal.number_of_exponent_le {l : Literal} (h : l.scaled.exponent ≤ 20)
    (hinteger : l.fraction ≠ [] ∨ l.exponent ≠ none) : ∃ x, l.number = .float x := by
  obtain ⟨x, hx⟩ := Scaled.magnitude?_of_exponent_le h
  have hnot : ¬(l.fraction = [] ∧ l.exponent = none) := by
    rintro ⟨hfraction, hexponent⟩
    rcases hinteger with hne | hne
    · exact hne hfraction
    · exact hne hexponent
  unfold number float
  rw [if_neg hnot, hx]
  exact ⟨_, rfl⟩

/-- A finite result of a calculator is read as a double, though not always as the same. -/
theorem readNumber_floatText {x : Float} (hfinite : isFinite x = true) (htame : Doubles.Tame x) :
    ∃ y, ∀ rest, Stops rest → Draft.readNumber (floatText x ++ rest) = (.float y, some rest) := by
  have hbits : x.toBits.toNat % 0x8000000000000000 < 0x7FF0000000000000 := of_decide_eq_true hfinite
  have hinteger : (Spelling.ofBits x.toBits.toNat).literal.fraction ≠ [] ∨
      (Spelling.ofBits x.toBits.toNat).literal.exponent ≠ none := by
    rcases Spelling.not_integer_ofBits x.toBits.toNat with hne | hne
    · exact .inl (mt digitValues_eq_nil.1 hne)
    · exact .inr (mt Option.map_eq_none_iff.1 hne)
  obtain ⟨y, hy⟩ :=
    Literal.number_of_exponent_le (Spelling.exponent_ofBits (htame hfinite)) hinteger
  refine ⟨y, fun rest hrest => ?_⟩
  have hread := Spelling.literal_text (Spelling.proper_ofBits x.toBits.toNat) hrest
  rw [Spelling.text_ofBits hbits] at hread
  rw [floatText, if_pos hfinite, Draft.readNumber, hread]
  simp only [hy, Draft.ofNumber]

/-- A finite double starts like a number. -/
theorem head_floatText {x : Float} (hfinite : isFinite x = true) :
    ∃ c cs, floatText x = c :: cs ∧ (c = '-' ∨ c.isDigit = true) := by
  have hbits : x.toBits.toNat % 0x8000000000000000 < 0x7FF0000000000000 := of_decide_eq_true hfinite
  rw [floatText, if_pos hfinite, ← Spelling.text_ofBits hbits]
  exact Spelling.head_text (Spelling.proper_ofBits x.toBits.toNat)

end Abacus.Json
