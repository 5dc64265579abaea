import Abacus.Proofs.Text.Digits

/-!
# Texts that are no integers

The texts that are read as integers are those of `Written`; all others are refused, and `Refused`
says why: a reader takes the digits from left to right and reports the first character at which it
has to stop. So a bad character counts only if the number in front of it is still in range, and a
number that is too great counts only if no bad character stands in front of the place where it
becomes so (`readInteger_eq_error`).

What is written for an integer of 64 bits is read as that integer (`written_renderInt64`).
-/

namespace Abacus.Text

/-! ## Why a text is refused -/

/-- Where the digits of a number stop: at a character that is no digit, or at the first digit that
makes the number greater than `limit`. -/
inductive Breaks (limit : Nat) (overflow : IntegerError) : List Char → IntegerError → Prop
  | character {ds rest : List Char} {c : Char} : (∀ d ∈ ds, d.isDigit = true) →
      Nat.ofDigitChars 10 ds 0 ≤ limit → c.isDigit = false →
      Breaks limit overflow (ds ++ c :: rest) .invalidDigit
  | range {ds rest : List Char} {c : Char} : (∀ d ∈ ds, d.isDigit = true) →
      Nat.ofDigitChars 10 ds 0 ≤ limit → c.isDigit = true →
      limit < Nat.ofDigitChars 10 (ds ++ [c]) 0 →
      Breaks limit overflow (ds ++ c :: rest) overflow

/-- Why a text is not read as an integer from `-below` to `above`. -/
inductive Refused (below above : Nat) : List Char → IntegerError → Prop
  | empty : Refused below above [] .empty
  | sign {c : Char} : c = '+' ∨ c = '-' → Refused below above [c] .invalidDigit
  | plain {c : Char} {cs : List Char} {e : IntegerError} : c ≠ '+' → c ≠ '-' →
      Breaks above .tooLarge (c :: cs) e → Refused below above (c :: cs) e
  | plus {c : Char} {cs : List Char} {e : IntegerError} :
      Breaks above .tooLarge (c :: cs) e → Refused below above ('+' :: c :: cs) e
  | minus {c : Char} {cs : List Char} {e : IntegerError} :
      Breaks below .tooSmall (c :: cs) e → Refused below above ('-' :: c :: cs) e

variable {limit below above : Nat} {overflow e : IntegerError} {cs : List Char}

theorem readMagnitude_of_breaks (h : Breaks limit overflow cs e) :
    readMagnitude limit overflow 0 cs = .error e := by
  cases h with
  | character hds hle hc =>
    rw [readMagnitude_append hds hle, readMagnitude, digit?_eq_none hc]
  | @range ds rest c hds hle hc hlt =>
    have hbeyond : ¬10 * Nat.ofDigitChars 10 ds 0 + (c.toNat - 48) ≤ limit := by
      rw [Nat.ofDigitChars_append, Nat.ofDigitChars_cons, Nat.ofDigitChars_nil] at hlt
      exact Nat.not_le.2 hlt
    rw [readMagnitude_append hds hle, readMagnitude]
    simp only [digit?_of_isDigit hc, if_neg hbeyond]

theorem breaks_of_readMagnitude {ds : List Char} (hds : ∀ d ∈ ds, d.isDigit = true)
    (hle : Nat.ofDigitChars 10 ds 0 ≤ limit)
    (h : readMagnitude limit overflow (Nat.ofDigitChars 10 ds 0) cs = .error e) :
    Breaks limit overflow (ds ++ cs) e := by
  induction cs generalizing ds with
  | nil => cases h
  | cons c cs ih =>
    have hsucc : Nat.ofDigitChars 10 (ds ++ [c]) 0 =
        10 * Nat.ofDigitChars 10 ds 0 + (c.toNat - 48) := by
      rw [Nat.ofDigitChars_append, Nat.ofDigitChars_cons, Nat.ofDigitChars_nil]
      rfl
    rw [readMagnitude] at h
    cases hc : c.isDigit with
    | false =>
      rw [digit?_eq_none hc] at h
      cases h
      exact .character hds hle hc
    | true =>
      simp only [digit?_of_isDigit hc] at h
      split at h
      next hnext =>
        have hall : ∀ d ∈ ds ++ [c], d.isDigit = true := by
          intro d hd
          rcases List.mem_append.1 hd with hd | hd
          · exact hds d hd
          · rw [List.mem_singleton.1 hd]
            exact hc
        rw [← hsucc] at hnext h
        have hbreaks := ih hall hnext h
        rwa [List.append_assoc] at hbreaks
      next hbeyond =>
        cases h
        exact .range hds hle hc (by omega)

theorem readMagnitude_eq_error :
    readMagnitude limit overflow 0 cs = .error e ↔ Breaks limit overflow cs e := by
  refine ⟨fun h => ?_, readMagnitude_of_breaks⟩
  have hnone : ∀ d ∈ ([] : List Char), d.isDigit = true := nofun
  exact breaks_of_readMagnitude hnone (Nat.zero_le limit) h

/-- Exactly the refused texts are not read. -/
theorem readInteger_eq_error :
    readInteger below above cs = .error e ↔ Refused below above cs e := by
  constructor
  · intro h
    cases start cs with
    | empty =>
      cases h
      exact .empty
    | sign hsign =>
      rw [readInteger_sign below above hsign] at h
      cases h
      exact .sign hsign
    | plain cs hplus hminus =>
      rw [readInteger_of_no_sign hplus hminus, map_eq_error, readMagnitude_eq_error] at h
      exact .plain hplus hminus h
    | plus c cs =>
      rw [readInteger_plus, map_eq_error, readMagnitude_eq_error] at h
      exact .plus h
    | minus c cs =>
      rw [readInteger_minus, map_eq_error, readMagnitude_eq_error] at h
      exact .minus h
  · intro h
    cases h with
    | empty => rfl
    | sign hsign => exact readInteger_sign below above hsign
    | plain hplus hminus hbreaks =>
      rw [readInteger_of_no_sign hplus hminus, map_eq_error, readMagnitude_eq_error]
      exact hbreaks
    | plus hbreaks =>
      rw [readInteger_plus, map_eq_error, readMagnitude_eq_error]
      exact hbreaks
    | minus hbreaks =>
      rw [readInteger_minus, map_eq_error, readMagnitude_eq_error]
      exact hbreaks

/-! ## Integers of 64 bits -/

/-- The text is a sign, if there is one, and digits, and its number fits into 64 bits. -/
abbrev WrittenInt64 (cs : List Char) (n : Int64) : Prop :=
  Written 0x8000000000000000 0x7FFFFFFFFFFFFFFF cs n.toInt

/-- Why a text is no integer of 64 bits. -/
abbrev RefusedInt64 : List Char → IntegerError → Prop :=
  Refused 0x8000000000000000 0x7FFFFFFFFFFFFFFF

theorem readInt64_eq_ok {n : Int64} : readInt64 cs = .ok n ↔ WrittenInt64 cs n := by
  constructor
  · intro h
    obtain ⟨m, hm, rfl⟩ := map_eq_ok h
    have hwritten := readInteger_eq_ok.1 hm
    have hbounds := hwritten.bounds
    rw [WrittenInt64, Int64.toInt_ofInt_of_le (by omega) (by omega)]
    exact hwritten
  · intro h
    rw [readInt64, readInteger_eq_ok.2 h]
    exact congrArg Except.ok (Int64.ofInt_toInt n)

theorem readInt64_eq_error : readInt64 cs = .error e ↔ RefusedInt64 cs e := by
  rw [readInt64, map_eq_error, readInteger_eq_error]

theorem written_renderInt {n : Int} (hlow : -(below : Int) ≤ n) (hhigh : n ≤ above) :
    Written below above (renderInt n).toList n := by
  obtain ⟨c, cs, hcs⟩ := List.exists_cons_of_ne_nil (natDigits_ne_nil n.natAbs)
  have hdigits : ∀ d ∈ c :: cs, d.isDigit = true := by
    rw [← hcs]
    exact fun d hd => isDigit_of_mem_natDigits hd
  have hvalue : Nat.ofDigitChars 10 (c :: cs) 0 = n.natAbs := by
    rw [← hcs, ofDigitChars_natDigits]
  by_cases hn : n < 0
  · have hwritten : Written below above ('-' :: c :: cs)
        (-(Nat.ofDigitChars 10 (c :: cs) 0 : Int)) :=
      .minus hdigits (by omega)
    rw [toList_renderInt_of_neg hn, hcs]
    rwa [hvalue, show -(n.natAbs : Int) = n by omega] at hwritten
  · have hwritten : Written below above (c :: cs) (Nat.ofDigitChars 10 (c :: cs) 0) :=
      .plain hdigits (by omega)
    rw [toList_renderInt_of_nonneg (by omega), hcs]
    rwa [hvalue, show (n.natAbs : Int) = n by omega] at hwritten

theorem written_renderInt64 (n : Int64) : WrittenInt64 (renderInt64 n).toList n := by
  have hlow := n.minValue_le_toInt
  have hhigh := n.toInt_lt
  rw [Int64.toInt_minValue] at hlow
  exact written_renderInt (by omega) (by omega)

/-- An integer can be told from its text. -/
theorem renderInt64_injective {m n : Int64} (h : renderInt64 m = renderInt64 n) : m = n := by
  have hread := readInt64_eq_ok.2 (written_renderInt64 m)
  rw [h, readInt64_eq_ok.2 (written_renderInt64 n)] at hread
  exact (Except.ok.inj hread).symm

/-- No blank stands in a text that is read as an integer. -/
theorem isBlank_of_written {n : Int} (h : Written below above cs n) :
    ∀ c ∈ cs, isBlank c = false :=
  h.forall_mem rfl rfl fun _ => isBlank_of_isDigit

end Abacus.Text
