import Abacus.Calculator.Scientific
import Abacus.Decimal.Layout
import Abacus.Json.Number
import Mathlib.Algebra.Group.Int.Defs
import Mathlib.Algebra.Group.Nat.Defs

/-!
# How far doubles go

The calculators compute with doubles that come from integers of 64 bits, and so do the readers of
numbers. Such doubles are far from the ends of the range: no result is subnormal, none is infinite.

A normal double has a significand of 53 bits and an exponent; `Normal low high` says that the
exponent is between two bounds, and `Moderate low high` allows zero as well. Rounding gives a normal
double whenever what is rounded has 53 bits or more (`normal_roundWithAccuracy`), and what it gives
survives being packed into bits (`Normal.unpack_pack`). The bounds of a result then follow from
those of the operands, one operation at a time.
-/

namespace Abacus.Doubles

open Float.Model Float.Model.UnpackedFloat

/-- A number with 53 bits and an exponent between the bounds. -/
def Normal (low high : Int) : UnpackedFloat → Prop
  | .finite _ m e _ => m.log2 = 52 ∧ low ≤ e ∧ e ≤ high
  | _ => False

/-- A normal number or zero. -/
def Moderate (low high : Int) (f : UnpackedFloat) : Prop :=
  Normal low high f ∨ ∃ s, f = .zero s

theorem Normal.mono {low high low' high' : Int} {f : UnpackedFloat} (h : Normal low high f)
    (hlow : low' ≤ low) (hhigh : high ≤ high') : Normal low' high' f := by
  cases f with
  | finite s m e hm => exact ⟨h.1, Int.le_trans hlow h.2.1, Int.le_trans h.2.2 hhigh⟩
  | _ => cases h

/-! ## Logarithms -/

theorem log2_shiftLeft {m : Nat} (hm : m ≠ 0) (k : Nat) : (m <<< k).log2 = m.log2 + k := by
  induction k with
  | zero => rfl
  | succ k ih =>
    have hshift : m <<< k ≠ 0 := by
      rw [Nat.shiftLeft_eq]
      exact Nat.mul_ne_zero hm (Nat.ne_of_gt (Nat.two_pow_pos k))
    rw [Nat.shiftLeft_succ, Nat.log2_two_mul hshift, ih, Nat.add_assoc]

/-- A number cut down to its first 53 bits. -/
theorem log2_cut {m : Nat} (hm : 52 ≤ m.log2) : (m / 2 ^ (m.log2 - 52)).log2 = 52 := by
  have hne : m ≠ 0 := by
    rintro rfl
    simp at hm
  have hlow := Nat.log2_self_le hne
  have hhigh := @Nat.lt_log2_self m
  have hsplit : m.log2 = 52 + (m.log2 - 52) := by omega
  have hlower : 2 ^ 52 ≤ m / 2 ^ (m.log2 - 52) := by
    rw [Nat.le_div_iff_mul_le (Nat.two_pow_pos _), ← Nat.pow_add, ← hsplit]
    exact hlow
  have hupper : m / 2 ^ (m.log2 - 52) < 2 ^ 53 := by
    rw [Nat.div_lt_iff_lt_mul (Nat.two_pow_pos _), ← Nat.pow_add]
    have hexponent : 53 + (m.log2 - 52) = m.log2 + 1 := by omega
    rw [hexponent]
    exact hhigh
  have hpos : m / 2 ^ (m.log2 - 52) ≠ 0 := by omega
  exact (Nat.log2_eq_iff hpos).2 ⟨hlower, hupper⟩

/-! ## Rounding -/

theorem mantissa_shiftRight (em : ExtendedMantissa) (k : Nat) :
    (em >>> k).mantissa = em.mantissa / 2 ^ k := by
  induction k with
  | zero => simp [HShiftRight.hShiftRight, Nat.repeat]
  | succ k ih =>
    change (em >>> k).mantissa / 2 = em.mantissa / 2 ^ (k + 1)
    rw [ih, Nat.div_div_eq_div_mul, Nat.pow_succ]

theorem mantissa_ofMantissaAndAccuracy (m : Nat) (a : Accuracy) :
    (ExtendedMantissa.ofMantissaAndAccuracy m a).mantissa = m := by
  cases a with
  | exact => rfl
  | inexact o => cases o <;> rfl

theorem roundedMantissa_eq (em : ExtendedMantissa) :
    em.roundedMantissa = em.mantissa ∨ em.roundedMantissa = em.mantissa + 1 := by
  rw [ExtendedMantissa.roundedMantissa]
  cases em.accuracy with
  | exact => exact .inl rfl
  | inexact o =>
    cases o with
    | lt => exact .inl rfl
    | eq =>
      -- a tie goes to the even one
      have htie : Accuracy.roundToNearestEven em.mantissa (.inexact .eq) =
        em.mantissa + em.mantissa % 2 := rfl
      omega
    | gt => exact .inr rfl

/-- The exponent that leaves 53 bits, but no less than the least. -/
theorem targetExponent_binary64 (n : Int) :
    Format.binary64.targetExponent n = max (n - 53) (-1074) := rfl

/-- Where a number with enough bits is shifted to: 53 bits are left. -/
theorem shiftToTargetExponent_eq {m : Nat} {e : Int} (a : Accuracy) (hm : 52 ≤ m.log2)
    (he : -1074 ≤ m.log2 + e - 52) :
    (shiftToTargetExponent .binary64 m e a).1.mantissa = m / 2 ^ (m.log2 - 52) ∧
      (shiftToTargetExponent .binary64 m e a).2 = m.log2 + e - 52 := by
  have htarget : Format.binary64.targetExponent (totalExponent m e) = m.log2 + e - 52 := by
    simp only [targetExponent_binary64, totalExponent]
    omega
  have hshift : (Format.binary64.targetExponent (totalExponent m e) - e).toNat = m.log2 - 52 := by
    omega
  unfold shiftToTargetExponent shiftToExponent
  simp only [hshift, mantissa_shiftRight, mantissa_ofMantissaAndAccuracy, true_and]
  omega

/-- Rounding a number with enough bits gives a normal one. -/
theorem normal_roundWithAccuracy {m : Nat} {e : Int} (s : Sign) (a : Accuracy)
    (hm : 52 ≤ m.log2) (he : -1074 ≤ m.log2 + e - 52) :
    Normal (m.log2 + e - 52) (m.log2 + e - 51) (roundWithAccuracy .binary64 s m e a) := by
  obtain ⟨hmantissa, hexponent⟩ := shiftToTargetExponent_eq a hm he
  have hcut := log2_cut hm
  rw [← hmantissa] at hcut
  unfold roundWithAccuracy
  generalize shiftToTargetExponent .binary64 m e a = first at hmantissa hexponent hcut
  obtain ⟨em, e₁⟩ := first
  simp only at hexponent hcut
  have hne : em.mantissa ≠ 0 := by
    intro hzero
    rw [hzero, Nat.log2_zero] at hcut
    cases hcut
  obtain ⟨hlow, hhigh⟩ := (Nat.log2_eq_iff hne).1 hcut
  -- rounding up can carry into one more bit
  have hrounded : 2 ^ 52 ≤ em.roundedMantissa ∧ em.roundedMantissa ≤ 2 ^ 53 := by
    rcases roundedMantissa_eq em with heq | heq <;> rw [heq] <;> omega
  have hne₁ : em.roundedMantissa ≠ 0 := by omega
  have hlog : 52 ≤ em.roundedMantissa.log2 ∧ em.roundedMantissa.log2 < 54 :=
    ⟨(Nat.le_log2 hne₁).2 hrounded.1, (Nat.log2_lt hne₁).2 (by omega)⟩
  obtain ⟨hmantissa₂, hexponent₂⟩ :=
    @shiftToTargetExponent_eq em.roundedMantissa e₁ .exact hlog.1 (by omega)
  have hcut₂ := log2_cut hlog.1
  rw [← hmantissa₂] at hcut₂
  have hne₂ : (shiftToTargetExponent .binary64 em.roundedMantissa e₁ .exact).1.mantissa ≠ 0 := by
    intro hzero
    rw [hzero, Nat.log2_zero] at hcut₂
    cases hcut₂
  dsimp only
  rw [dif_neg hne₂]
  refine ⟨hcut₂, ?_, ?_⟩ <;> rw [hexponent₂] <;> omega

/-! ## Packing -/

theorem toNat_unpackExponent (b : BitVec Format.binary64.numBits) :
    (unpackExponent b).toNat = b.toNat / 2 ^ 52 % 2 ^ 11 := by
  simp [unpackExponent, BitVec.extractLsb_toNat, Nat.shiftRight_eq_div_pow]

theorem toNat_append_one (v : BitVec 52) : (1#1 ++ v).toNat = 2 ^ 52 + v.toNat := by
  rw [BitVec.toNat_append, ← Nat.shiftLeft_add_eq_or_of_lt v.isLt]
  rfl

theorem toNat_ofNat_of_log2 {m : Nat} (hm : m.log2 = 52) :
    2 ^ 52 + (BitVec.ofNat 52 m).toNat = m := by
  have hne : m ≠ 0 := by
    rintro rfl
    simp at hm
  obtain ⟨hlow, hhigh⟩ := (Nat.log2_eq_iff hne).1 hm
  rw [BitVec.toNat_ofNat]
  omega

/-- Bits whose exponent is neither the greatest nor the least stand for a normal number. -/
theorem unpack_of_exponent {b : BitVec Format.binary64.numBits}
    (hfull : unpackExponent b ≠ -1#11) (hzero : unpackExponent b ≠ 0#11) :
    ∃ s hm, UnpackedFloat.unpack .binary64 b =
      .finite s (1#1 ++ unpackMantissa b).toNat ((unpackExponent b).toNat - 1075) hm :=
  ⟨_, _, (if_neg hfull).trans (if_neg hzero)⟩

/-- Bits with the greatest exponent stand for no number that is finite. -/
theorem unpack_of_full {b : BitVec Format.binary64.numBits} (hfull : unpackExponent b = -1#11) :
    (∃ s, UnpackedFloat.unpack .binary64 b = .infinity s) ∨
      UnpackedFloat.unpack .binary64 b = .notANumber := by
  by_cases hmantissa : unpackMantissa b = 0#52
  · exact .inl ⟨_, (if_pos hfull).trans (if_pos hmantissa)⟩
  · exact .inr ((if_pos hfull).trans (if_neg hmantissa))

/-- A normal number in range is still one when it comes back from its bits. -/
theorem Normal.unpack_pack {low high : Int} {f : UnpackedFloat} (h : Normal low high f)
    (hlow : -1074 ≤ low) (hhigh : high ≤ 970) : Normal low high (Float.Model.pack f).unpack := by
  change Normal low high (UnpackedFloat.unpack .binary64 (UnpackedFloat.pack .binary64 f))
  cases f with
  | infinity | notANumber | zero => cases h
  | finite s m e hm =>
    obtain ⟨hlog, hle, hge⟩ := h
    have hbias : (e + Format.binary64.exponentBias + (52 : Nat)).toNat = (e + 1075).toNat := by
      simp only [Format.exponentBias]
      omega
    have hexponent : (BitVec.ofNat 11 (e + 1075).toNat).toNat = (e + 1075).toNat := by
      rw [BitVec.toNat_ofNat]
      omega
    have hpack : UnpackedFloat.pack .binary64 (.finite s m e hm) =
        packComponents .binary64 s (BitVec.ofNat 11 (e + 1075).toNat) (BitVec.ofNat 52 m) := by
      unfold UnpackedFloat.pack
      simp only [hbias]
      rw [if_neg (by omega), if_pos (by rw [hlog]; rfl)]
    have hfull : BitVec.ofNat 11 (e + 1075).toNat ≠ -1#11 := by
      intro heq
      rw [heq] at hexponent
      have hvalue : (-1#11).toNat = 2047 := rfl
      omega
    have hzero : BitVec.ofNat 11 (e + 1075).toNat ≠ 0#11 := by
      intro heq
      rw [heq] at hexponent
      have hvalue : (0#11).toNat = 0 := rfl
      omega
    obtain ⟨s', hm', hunpack⟩ := unpack_of_exponent
      (b := packComponents .binary64 s (BitVec.ofNat 11 (e + 1075).toNat) (BitVec.ofNat 52 m))
      (by rwa [unpackExponent_packComponents]) (by rwa [unpackExponent_packComponents])
    rw [hpack, hunpack]
    refine ⟨?_, ?_, ?_⟩
    · rw [unpackMantissa_packComponents, toNat_append_one, toNat_ofNat_of_log2 hlog]
      exact hlog
    · rw [unpackExponent_packComponents, hexponent]
      omega
    · rw [unpackExponent_packComponents, hexponent]
      omega

theorem Moderate.unpack_pack {low high : Int} {f : UnpackedFloat} (h : Moderate low high f)
    (hlow : -1074 ≤ low) (hhigh : high ≤ 970) : Moderate low high (Float.Model.pack f).unpack := by
  rcases h with h | ⟨s, rfl⟩
  · exact .inl (h.unpack_pack hlow hhigh)
  · exact .inr ⟨s, by cases s <;> rfl⟩

/-- The bits of a number below two to the 66. -/
theorem toNat_lt_of_moderate {low high : Int} {b : BitVec Format.binary64.numBits}
    (h : Moderate low high (UnpackedFloat.unpack .binary64 b)) (hhigh : high ≤ 13) :
    b.toNat % 0x8000000000000000 < 0x4410000000000000 := by
  have hexponent := toNat_unpackExponent b
  by_cases hfull : unpackExponent b = -1#11
  · rcases unpack_of_full hfull with ⟨s, hunpack⟩ | hunpack
    all_goals
      rw [hunpack] at h
      rcases h with h | ⟨_, h⟩ <;> cases h
  by_cases hzero : unpackExponent b = 0#11
  · rw [hzero] at hexponent
    have hvalue : (0#11).toNat = 0 := rfl
    omega
  obtain ⟨s, hm, hunpack⟩ := unpack_of_exponent hfull hzero
  rw [hunpack] at h
  rcases h with ⟨-, -, hle⟩ | ⟨_, h⟩
  · rw [hexponent] at hle
    omega
  · cases h

/-- A double below two to the 66. -/
theorem Moderate.bits_lt {low high : Int} {x : Float} (h : Moderate low high x.toModel.unpack)
    (hhigh : high ≤ 13) : x.toBits.toNat % 0x8000000000000000 < 0x4410000000000000 :=
  toNat_lt_of_moderate h hhigh

/-! ## Conversion -/

theorem normal_round {m : Nat} (s : Sign) (hpos : 0 < m) (hm : m < 2 ^ 64) :
    Normal (-52) 12 (UnpackedFloat.round .binary64 s m 0) := by
  have hlog : m.log2 < 64 := (Nat.log2_lt (by omega)).2 hm
  have htarget : Format.binary64.targetExponent (totalExponent m 0) = m.log2 - 52 := by
    simp only [targetExponent_binary64, totalExponent]
    omega
  have hshift := log2_shiftLeft (by omega : m ≠ 0) (0 - ((m.log2 : Int) - 52)).toNat
  unfold UnpackedFloat.round decreaseExponent
  simp only [htarget]
  exact (normal_roundWithAccuracy s .exact (by omega) (by omega)).mono (by omega) (by omega)

theorem normal_ofInt {n : Int} (hn : n ≠ 0) (hlow : -2 ^ 64 < n) (hhigh : n < 2 ^ 64) :
    Normal (-52) 12 (UnpackedFloat.ofInt .binary64 n) := by
  unfold UnpackedFloat.ofInt UnpackedFloat.normalize
  split
  next hlt =>
    have hneg : n < 0 := Int.compare_eq_lt.1 hlt
    exact normal_round .negative (by omega) (by omega)
  next heq => exact absurd (Int.compare_eq_eq.1 heq) hn
  next hgt =>
    have hpos : 0 < n := Int.compare_eq_gt.1 hgt
    exact normal_round .positive (by omega) (by omega)

theorem moderate_ofInt {n : Int} (hlow : -2 ^ 64 < n) (hhigh : n < 2 ^ 64) :
    Moderate (-52) 12 (UnpackedFloat.ofInt .binary64 n) := by
  by_cases hn : n = 0
  · subst hn
    exact .inr ⟨.positive, rfl⟩
  · exact .inl (normal_ofInt hn hlow hhigh)

theorem moderate_nearestDouble (n : Int64) :
    Moderate (-52) 12 (nearestDouble n).toModel.unpack := by
  have hlow := n.le_toInt
  have hhigh := n.toInt_lt
  exact (moderate_ofInt (by omega) (by omega)).unpack_pack (by decide) (by decide)

theorem normal_nearestDouble {n : Int64} (hn : n ≠ 0) :
    Normal (-52) 12 (nearestDouble n).toModel.unpack := by
  have hlow := n.le_toInt
  have hhigh := n.toInt_lt
  have hne : n.toInt ≠ 0 := fun h => hn (Int64.toInt_inj.1 h)
  exact (normal_ofInt hne (by omega) (by omega)).unpack_pack (by decide) (by decide)

theorem moderate_toFloat (n : UInt64) : Moderate (-52) 12 n.toFloat.toModel.unpack := by
  have hhigh := n.toNat_lt
  exact (moderate_ofInt (by omega) (by omega)).unpack_pack (by decide) (by decide)

/-! ## Quotients -/

theorem log2_quotient {m₁ m₂ : Nat} (h₁ : m₁.log2 = 52) (h₂ : m₂.log2 = 52) :
    52 ≤ (m₁ <<< 53 / m₂).log2 ∧ (m₁ <<< 53 / m₂).log2 ≤ 53 := by
  have hne₁ : m₁ ≠ 0 := by
    rintro rfl
    simp at h₁
  have hne₂ : m₂ ≠ 0 := by
    rintro rfl
    simp at h₂
  obtain ⟨hlow₁, hhigh₁⟩ := (Nat.log2_eq_iff hne₁).1 h₁
  obtain ⟨hlow₂, hhigh₂⟩ := (Nat.log2_eq_iff hne₂).1 h₂
  rw [Nat.shiftLeft_eq]
  have hlower : 2 ^ 52 ≤ m₁ * 2 ^ 53 / m₂ := by
    rw [Nat.le_div_iff_mul_le (by omega)]
    calc 2 ^ 52 * m₂ ≤ 2 ^ 52 * 2 ^ 53 := Nat.mul_le_mul_left _ (Nat.le_of_lt hhigh₂)
      _ ≤ m₁ * 2 ^ 53 := Nat.mul_le_mul_right _ hlow₁
  have hupper : m₁ * 2 ^ 53 / m₂ < 2 ^ 54 := by
    rw [Nat.div_lt_iff_lt_mul (by omega)]
    calc m₁ * 2 ^ 53 < 2 ^ 53 * 2 ^ 53 := Nat.mul_lt_mul_of_pos_right hhigh₁ (by decide)
      _ = 2 ^ 54 * 2 ^ 52 := by decide
      _ ≤ 2 ^ 54 * m₂ := Nat.mul_le_mul_left _ hlow₂
  have hne : m₁ * 2 ^ 53 / m₂ ≠ 0 := by omega
  exact ⟨(Nat.le_log2 hne).2 hlower, Nat.le_of_lt_succ ((Nat.log2_lt hne).2 hupper)⟩

theorem moderate_div {f g : UnpackedFloat} (hf : Moderate (-52) 12 f) (hg : Normal (-52) 12 g) :
    Moderate (-117) 13 (UnpackedFloat.div .binary64 f g) := by
  cases g with
  | infinity | notANumber | zero => cases hg
  | finite s₂ m₂ e₂ hm₂ =>
    obtain ⟨hlog₂, hlow₂, hhigh₂⟩ := hg
    rcases hf with hf | ⟨s, rfl⟩
    · cases f with
      | infinity | notANumber | zero => cases hf
      | finite s₁ m₁ e₁ hm₁ =>
        obtain ⟨hlog₁, hlow₁, hhigh₁⟩ := hf
        obtain ⟨hlow, hhigh⟩ := log2_quotient hlog₁ hlog₂
        have htarget : min (e₁ - e₂) (Format.binary64.targetExponent
            (totalExponent m₁ e₁ - totalExponent m₂ e₂)) = e₁ - e₂ - 53 := by
          simp only [targetExponent_binary64, totalExponent]
          omega
        have hshift : (e₁ - e₂ - (e₁ - e₂ - 53)).toNat = 53 := by omega
        left
        unfold UnpackedFloat.div divCore
        simp only [htarget, hshift]
        exact (normal_roundWithAccuracy _ _ hlow (by omega)).mono (by omega) (by omega)
    · exact .inr ⟨_, rfl⟩

/-- The quotient of two integers is below two to the 66. -/
theorem moderate_quotient (m : Int64) {n : Int64} (hn : n ≠ 0) :
    Moderate (-117) 13 (nearestDouble m / nearestDouble n).toModel.unpack :=
  (moderate_div (moderate_nearestDouble m) (normal_nearestDouble hn)).unpack_pack (by decide)
    (by decide)

/-! ## Square roots -/

theorem log2_sqrt {m : Nat} (hm : m.log2 = 104 ∨ m.log2 = 105) : m.sqrt.log2 = 52 := by
  have hne : m ≠ 0 := by
    rintro rfl
    simp at hm
  have hlow : 2 ^ 104 ≤ m := (Nat.le_log2 hne).1 (by omega)
  have hhigh : m < 2 ^ 106 := (Nat.log2_lt hne).1 (by omega)
  have hlower : 2 ^ 52 ≤ m.sqrt := by
    apply Nat.le_of_not_lt
    intro hlt
    have hsquare := Nat.mul_le_mul (Nat.succ_le_of_lt hlt) (Nat.succ_le_of_lt hlt)
    have hbound := Nat.lt_succ_sqrt m
    omega
  have hupper : m.sqrt < 2 ^ 53 := by
    apply Nat.lt_of_not_le
    intro hle
    have hsquare := Nat.mul_le_mul hle hle
    have hbound := Nat.sqrt_le m
    omega
  exact (Nat.log2_eq_iff (by omega)).2 ⟨hlower, hupper⟩

/-- The square root of a number that is not below zero. -/
theorem moderate_sqrt {f : UnpackedFloat} (hf : Moderate (-52) 12 f) :
    Moderate (-52) 12 (UnpackedFloat.sqrt .binary64 f) ∨
      UnpackedFloat.sqrt .binary64 f = .notANumber := by
  rcases hf with hf | ⟨s, rfl⟩
  · cases f with
    | infinity | notANumber | zero => cases hf
    | finite s m e hm =>
      cases s with
      | negative => exact .inr rfl
      | positive =>
        obtain ⟨hlog, hlow, hhigh⟩ := hf
        have htarget : min (e.ediv 2) (Format.binary64.targetExponent
            ((totalExponent m e + 1).ediv 2)) = e.ediv 2 - 26 := by
          simp only [targetExponent_binary64, totalExponent, hlog]
          change min (e / 2) (max ((_ + 1) / 2 - _) _) = e / 2 - 26
          omega
        have hdiv : e.ediv 2 = e / 2 := rfl
        have hshift := log2_shiftLeft (Nat.ne_of_gt hm) (e - 2 * (e.ediv 2 - 26)).toNat
        have hroot := log2_sqrt (m := m <<< (e - 2 * (e.ediv 2 - 26)).toNat) (by omega)
        left; left
        unfold UnpackedFloat.sqrt sqrtCore
        simp only [htarget]
        exact (normal_roundWithAccuracy _ _ (by omega) (by omega)).mono (by omega) (by omega)
  · exact .inl (.inr ⟨s, rfl⟩)

/-! ## Products -/

theorem log2_product {m₁ m₂ : Nat} (h₁ : m₁.log2 = 52) (h₂ : m₂.log2 = 52) :
    104 ≤ (m₁ * m₂).log2 ∧ (m₁ * m₂).log2 ≤ 105 := by
  have hne₁ : m₁ ≠ 0 := by
    rintro rfl
    simp at h₁
  have hne₂ : m₂ ≠ 0 := by
    rintro rfl
    simp at h₂
  obtain ⟨hlow₁, hhigh₁⟩ := (Nat.log2_eq_iff hne₁).1 h₁
  obtain ⟨hlow₂, hhigh₂⟩ := (Nat.log2_eq_iff hne₂).1 h₂
  have hlower : 2 ^ 52 * 2 ^ 52 ≤ m₁ * m₂ := Nat.mul_le_mul hlow₁ hlow₂
  have hupper : m₁ * m₂ < 2 ^ 53 * 2 ^ 53 :=
    Nat.mul_lt_mul_of_lt_of_le hhigh₁ (Nat.le_of_lt hhigh₂) (by decide)
  have hne : m₁ * m₂ ≠ 0 := Nat.mul_ne_zero hne₁ hne₂
  exact ⟨(Nat.le_log2 hne).2 hlower, Nat.le_of_lt_succ ((Nat.log2_lt hne).2 hupper)⟩

theorem moderate_mul {f g : UnpackedFloat} {high : Int} (hf : Moderate (-52) 12 f)
    (hg : Normal (-52) high g) : Moderate (-52) (high + 66) (UnpackedFloat.mul .binary64 f g) := by
  cases g with
  | infinity | notANumber | zero => cases hg
  | finite s₂ m₂ e₂ hm₂ =>
    obtain ⟨hlog₂, hlow₂, hhigh₂⟩ := hg
    rcases hf with hf | ⟨s, rfl⟩
    · cases f with
      | infinity | notANumber | zero => cases hf
      | finite s₁ m₁ e₁ hm₁ =>
        obtain ⟨hlog₁, hlow₁, hhigh₁⟩ := hf
        obtain ⟨hlow, hhigh⟩ := log2_product hlog₁ hlog₂
        left
        unfold UnpackedFloat.mul
        exact (normal_roundWithAccuracy _ _ (by omega) (by omega)).mono (by omega) (by omega)
    · exact .inr ⟨_, rfl⟩

instance (low high : Int) : (f : UnpackedFloat) → Decidable (Normal low high f)
  | .finite _ m e _ => inferInstanceAs (Decidable (m.log2 = 52 ∧ low ≤ e ∧ e ≤ high))
  | .zero _ | .infinity _ | .notANumber => .isFalse id

/-- The first powers of ten are normal. -/
theorem normal_powerOfTen :
    ∀ n ≤ 20, Normal (-52) 14 (Json.Scaled.powerOfTen n).toModel.unpack := by
  decide +kernel

/-- An integer of 64 bits times one of the first powers of ten is not infinite. -/
theorem isInf_product (m : UInt64) {n : Nat} (hn : n ≤ 20) :
    (m.toFloat * Json.Scaled.powerOfTen n).isInf = false := by
  have hproduct : Moderate (-52) 80 (m.toFloat * Json.Scaled.powerOfTen n).toModel.unpack :=
    (moderate_mul (moderate_toFloat m) (normal_powerOfTen n hn)).unpack_pack (by decide) (by decide)
  change (m.toFloat * Json.Scaled.powerOfTen n).toModel.unpack.isInf = false
  rcases hproduct with hproduct | ⟨s, hzero⟩
  · cases hvalue : (m.toFloat * Json.Scaled.powerOfTen n).toModel.unpack with
    | infinity s =>
      rw [hvalue] at hproduct
      cases hproduct
    | _ => rfl
  · rw [hzero]
    rfl

/-! ## Results of calculators -/

/-- If the double is finite, it is below two to the 66. -/
def Tame (x : Float) : Prop :=
  Decimal.isFinite x = true → x.toBits.toNat % 0x8000000000000000 < 0x4410000000000000

theorem tame_divide {c : Calculator} {n : Int64} {x : Float} (h : c.divide n = .ok x) : Tame x := by
  unfold Calculator.divide at h
  split at h
  next => cases h
  next hn =>
    cases h
    exact fun _ => (moderate_quotient c.value hn).bits_lt (by decide)

theorem tame_sqrt (n : Int64) : Tame (nearestDouble n).sqrt := by
  rcases moderate_sqrt (moderate_nearestDouble n) with hroot | hroot
  · exact fun _ => Moderate.bits_lt (hroot.unpack_pack (by decide) (by decide)) (by decide)
  · intro hfinite
    have hnan : (nearestDouble n).sqrt = .ofModel (.pack .notANumber) :=
      congrArg (fun f => Float.ofModel (Float.Model.pack f)) hroot
    rw [hnan] at hfinite
    cases hfinite

theorem tame_squareRoot {c : ScientificCalculator} {x : Float} (h : c.squareRoot = .ok x) :
    Tame x := by
  unfold ScientificCalculator.squareRoot at h
  split at h
  next =>
    split at h
    next => cases h
    next =>
      cases h
      intro hfinite
      have hnan : Decimal.isFinite (0.0 / 0.0) = false := by decide +kernel
      rw [hnan] at hfinite
      cases hfinite
  next =>
    cases h
    exact tame_sqrt c.value

end Abacus.Doubles
