import Abacus.Decimal.Shortest
import Abacus.Proofs.Text.Digits
import Mathlib.Algebra.Group.Nat.Defs

/-!
# The decimal that is found is near the number

The search for the shortest decimal tries one grid after the other. Whatever grid it ends on, the
point that it answers with is above zero and not beyond the upper end of the interval of the number
(`search_spec`). The first half holds even if no grid has a hit: every grid that is tried is at
most as coarse as the number is great (`reaches`), so a point below the number is still above zero.

For the digits this means that there is at least one, that the first is not zero, and that the
exponent of the first digit is bounded by the number (`point_shortest`).
-/

namespace Abacus.Decimal

open Abacus.Text

/-- There is a first digit, and it is not zero. -/
structure Digits.Leads (d : Digits) : Prop where
  first : ∃ c cs, d.digits = c :: cs ∧ c ≠ '0'
  digits : ∀ c ∈ d.digits, c.isDigit = true

namespace Binary

variable {b : Binary} {tie : Tie} {p : Int} {k : Nat}

theorem scale_pos (b : Binary) : 0 < b.scale := Nat.two_pow_pos _

theorem den_pos (b : Binary) : 0 < b.den := Nat.mul_pos (by decide) (Nat.two_pow_pos _)

theorem clear_pos (p : Int) : 0 < clear p := Nat.pow_pos (by decide)

theorem value_pos (hb : 0 < b.mantissa) : 0 < b.value :=
  Nat.mul_pos (Nat.mul_pos (by decide) hb) b.scale_pos

theorem lower_pos (hb : 0 < b.mantissa) : 0 < b.lower := by
  refine Nat.mul_pos ?_ b.scale_pos
  split <;> omega

theorem value_le_upper (b : Binary) : b.value ≤ b.upper :=
  Nat.mul_le_mul_right b.scale (Nat.le_add_right _ _)

/-! ## Points of a grid -/

/-- A point of the grid `10^p` above zero and not beyond the interval of the number. -/
structure Near (b : Binary) (p : Int) (k : Nat) : Prop where
  pos : 0 < k
  le_upper : b.grid p k ≤ b.upper * clear p

theorem Covers.near (hb : 0 < b.mantissa) (h : b.Covers p k) : b.Near p k := by
  have hlower : 0 < b.lower * clear p := Nat.mul_pos (lower_pos hb) (clear_pos p)
  have hgrid : 0 < b.grid p k ∧ b.grid p k ≤ b.upper * clear p := by
    unfold Covers at h
    split at h
    next => exact ⟨Nat.lt_of_lt_of_le hlower h.1, h.2⟩
    next => exact ⟨Nat.lt_trans hlower h.1, Nat.le_of_lt h.2⟩
  refine ⟨Nat.pos_of_ne_zero ?_, hgrid.2⟩
  rintro rfl
  simp [grid] at hgrid

theorem nearer_eq (b : Binary) (tie : Tie) (p : Int) (k : Nat) :
    b.nearer tie p k = k ∨ b.nearer tie p k = k + 1 := by
  unfold nearer
  simp only
  split
  next => exact .inl rfl
  next =>
    split
    next => exact .inr rfl
    next =>
      cases tie with
      | upward => exact .inr rfl
      | toEven =>
        simp only
        split
        next => exact .inl rfl
        next => exact .inr rfl

theorem onGrid?_covers (h : b.onGrid? tie p = some k) : b.Covers p k := by
  unfold onGrid? at h
  simp only at h
  split at h
  next hlow hhigh =>
    cases h
    rcases nearer_eq b tie p (b.below p) with heq | heq
    · rw [heq]; exact of_decide_eq_true hlow
    · rw [heq]; exact of_decide_eq_true hhigh
  next hlow _ => cases h; exact of_decide_eq_true hlow
  next _ hhigh => cases h; exact of_decide_eq_true hhigh
  next => cases h

/-! ## The exponent of the first digit -/

theorem lt_digitCount (n : Nat) : n < 10 ^ digitCount n :=
  (Nat.length_toDigits_le_iff (by decide) Nat.length_toDigits_pos).1 (Nat.le_refl _)

theorem digitCount_le {n : Nat} (hn : 0 < n) : 10 ^ (digitCount n - 1) ≤ n := by
  by_cases hone : digitCount n = 1
  · rw [hone]
    exact hn
  · have hpos : 0 < digitCount n := Nat.length_toDigits_pos
    apply Nat.le_of_not_lt
    intro hlt
    have hlength : digitCount n ≤ digitCount n - 1 :=
      (Nat.length_toDigits_le_iff (by decide) (by omega)).2 hlt
    omega

/-- A grid that is not coarser than the first digit has a point between zero and the number. -/
theorem reaches (hb : 0 < b.mantissa) (hp : p ≤ b.leading) :
    10 ^ p.toNat * b.den ≤ b.value * clear p := by
  have hvalue := value_pos hb
  have hden := b.den_pos
  unfold leading at hp
  by_cases hle : b.den ≤ b.value
  · rw [if_pos hle] at hp
    have hquotient : 10 ^ (digitCount (b.value / b.den) - 1) ≤ b.value / b.den :=
      digitCount_le (Nat.div_pos hle hden)
    have hpower : 10 ^ p.toNat ≤ b.value / b.den :=
      Nat.le_trans (Nat.pow_le_pow_right (by decide) (by omega)) hquotient
    calc 10 ^ p.toNat * b.den ≤ b.value / b.den * b.den := Nat.mul_le_mul_right _ hpower
      _ ≤ b.value := Nat.div_mul_le_self _ _
      _ ≤ b.value * clear p := Nat.le_mul_of_pos_right _ (clear_pos p)
  · rw [if_neg hle] at hp
    simp only at hp
    have hpos : 0 < digitCount (b.den / b.value) := Nat.length_toDigits_pos
    have hlt := lt_digitCount (b.den / b.value)
    have hfull : b.den < b.value * 10 ^ digitCount (b.den / b.value) := by
      rw [Nat.mul_comm]
      exact (Nat.div_lt_iff_lt_mul hvalue).1 hlt
    have hone : 10 ^ p.toNat = 1 := by
      have hzero : p.toNat = 0 := by split at hp <;> omega
      rw [hzero, Nat.pow_zero]
    rw [hone, Nat.one_mul]
    split at hp
    next heq =>
      rw [← heq]
      exact Nat.mul_le_mul_left _ (Nat.pow_le_pow_right (by decide) (by omega))
    next =>
      refine Nat.le_trans (Nat.le_of_lt hfull) (Nat.mul_le_mul_left _ ?_)
      exact Nat.pow_le_pow_right (by decide) (by omega)

theorem near_below (hb : 0 < b.mantissa) (hp : p ≤ b.leading) : b.Near p (b.below p) := by
  have hunit : 0 < 10 ^ p.toNat * b.den := Nat.mul_pos (Nat.pow_pos (by decide)) b.den_pos
  refine ⟨Nat.div_pos (reaches hb hp) hunit, ?_⟩
  calc b.grid p (b.below p) = b.below p * (10 ^ p.toNat * b.den) := Nat.mul_assoc ..
    _ ≤ b.value * clear p := Nat.div_mul_le_self _ _
    _ ≤ b.upper * clear p := Nat.mul_le_mul_right _ b.value_le_upper

/-- The search answers with a point near the number. -/
theorem search_spec (hb : 0 < b.mantissa) (tie : Tie) {n : Nat} (hn : 1 ≤ n) (fuel : Nat) :
    b.Near (b.search tie n fuel).1 (b.search tie n fuel).2 := by
  induction fuel generalizing n with
  | zero =>
    have hp : b.leading + 1 - n ≤ b.leading := by omega
    exact near_below hb hp
  | succ fuel ih =>
    unfold search
    simp only
    split
    next k hk => exact (onGrid?_covers hk).near hb
    next => exact ih (by omega)

/-! ## The digits -/

/-- A point near the number has its first digit where the number has it, at most. -/
theorem Near.first_digit (h : b.Near p k) {n : Nat} (hn : (n : Int) ≤ p + digitCount k - 1) :
    10 ^ n * b.den ≤ b.upper := by
  have hdigits := digitCount_le h.pos
  have hgrid : k * 10 ^ p.toNat * b.den ≤ b.upper * 10 ^ (-p).toNat := h.le_upper
  have hpow : 10 ^ n * 10 ^ (-p).toNat ≤ 10 ^ (digitCount k - 1) * 10 ^ p.toNat := by
    rw [← Nat.pow_add, ← Nat.pow_add]
    exact Nat.pow_le_pow_right (by decide) (by omega)
  refine Nat.le_of_mul_le_mul_right ?_ (Nat.pow_pos (by decide : 0 < 10) : 0 < 10 ^ (-p).toNat)
  calc 10 ^ n * b.den * 10 ^ (-p).toNat = 10 ^ n * 10 ^ (-p).toNat * b.den := Nat.mul_right_comm ..
    _ ≤ 10 ^ (digitCount k - 1) * 10 ^ p.toNat * b.den := Nat.mul_le_mul_right _ hpow
    _ ≤ k * 10 ^ p.toNat * b.den :=
      Nat.mul_le_mul_right _ (Nat.mul_le_mul_right _ hdigits)
    _ ≤ b.upper * 10 ^ (-p).toNat := hgrid

theorem significant_subset {cs : List Char} {c : Char} (h : c ∈ significant cs) : c ∈ cs := by
  rw [significant, List.mem_reverse] at h
  exact List.mem_reverse.1 ((List.dropWhile_sublist _).subset h)

/-- Trailing zeros are not at the start of digits that do not start with one. -/
theorem significant_cons {c : Char} (hc : c ≠ '0') (cs : List Char) :
    ∃ ds, significant (c :: cs) = c :: ds := by
  refine ⟨(cs.reverse.dropWhile (· = '0')).reverse, ?_⟩
  unfold significant
  rw [List.reverse_cons, List.dropWhile_append]
  split
  next hempty =>
    rw [List.isEmpty_iff.1 hempty]
    simp [hc]
  next => rw [List.reverse_append, List.reverse_singleton, List.singleton_append]

/-- The digits of the shortest decimal of a number above zero stand for a number above zero. -/
theorem leads_shortest (hb : 0 < b.mantissa) (tie : Tie) : (b.shortest tie).Leads := by
  have hnear := search_spec hb tie (Nat.le_refl 1) 17
  obtain ⟨c, cs, hcs⟩ := List.exists_cons_of_ne_nil (natDigits_ne_nil (b.search tie 1 17).2)
  have hc : c ≠ '0' := head_natDigits hnear.pos c (by simp [hcs])
  obtain ⟨ds, hds⟩ := significant_cons hc cs
  have hdigits : (b.shortest tie).digits = c :: ds := by rw [← hds, ← hcs]; rfl
  refine ⟨⟨c, ds, hdigits, hc⟩, fun d hd => ?_⟩
  refine isDigit_of_mem_natDigits (n := (b.search tie 1 17).2) ?_
  exact significant_subset hd

/-- The exponent of the first digit of the shortest decimal is bounded by the number. -/
theorem point_shortest (hb : 0 < b.mantissa) (tie : Tie) {n : Nat}
    (hn : (n : Int) ≤ (b.shortest tie).point - 1) : 10 ^ n * b.den ≤ b.upper :=
  (search_spec hb tie (Nat.le_refl 1) 17).first_digit hn

end Binary

end Abacus.Decimal
