import Abacus.Dict
import Mathlib.Algebra.Group.Nat.Defs

/-!
# The order of bytes

Texts are ordered by their code points, and that is the order of their bytes in UTF-8
(`bytes_lt_iff`). A character is written as a first byte, which says how many more there are, and
these, with six bits each (`exists_units`). The more bytes a character has, the greater is its code
point and the greater is its first byte. So the bytes of the smaller one of two characters come
first, whatever stands behind them (`utf8EncodeChar_lt`), and the rest is an induction on the texts.
-/

namespace Abacus.Text

/-- The bytes of a text in UTF-8. -/
def bytes (s : String) : List UInt8 := s.toUTF8.data.toList

theorem bytes_eq (s : String) : bytes s = s.toList.flatMap String.utf8EncodeChar := by
  conv => lhs; rw [← String.ofList_toList (s := s)]
  rw [bytes, String.toUTF8_eq_toByteArray, String.toByteArray_ofList, List.utf8Encode]
  simp

/-! ## Characters -/

/-- The bytes behind the first one: the lower bits of a code point, six in each. -/
def units : Nat → Nat → List UInt8
  | 0, _ => []
  | n + 1, v => UInt8.ofNat (v / 64 ^ n % 64 + 128) :: units n v

/-- The number of bytes behind the first one, and what the first one starts from. -/
inductive Lead (v : Nat) : Nat → Nat → Prop
  | one : v < 0x80 → Lead v 0 0
  | two : 0x80 ≤ v → v < 0x800 → Lead v 1 0xC0
  | three : 0x800 ≤ v → v < 0x10000 → Lead v 2 0xE0
  | four : 0x10000 ≤ v → v < 0x110000 → Lead v 3 0xF0

theorem exists_units (c : Char) : ∃ n start, Lead c.toNat n start ∧
    String.utf8EncodeChar c = UInt8.ofNat (start + c.toNat / 64 ^ n) :: units n c.toNat := by
  have hvalid : c.toNat < 0x110000 := by
    have hvalid := c.valid
    simp only [Char.toNat]
    omega
  have hval : c.val.toNat = c.toNat := rfl
  rw [String.utf8EncodeChar.eq_1, hval]
  split
  next hone =>
    refine ⟨0, 0, .one (by omega), ?_⟩
    simp [units]
  next hone =>
    split
    next htwo =>
      refine ⟨1, 0xC0, .two (by omega) (by omega), ?_⟩
      rw [Nat.mod_eq_of_lt (by omega : c.toNat / 64 < 32), Nat.add_comm]
      simp [units]
    next htwo =>
      split
      next hthree =>
        refine ⟨2, 0xE0, .three (by omega) (by omega), ?_⟩
        rw [Nat.mod_eq_of_lt (by omega : c.toNat / 4096 < 16), Nat.add_comm]
        simp [units]
      next hthree =>
        refine ⟨3, 0xF0, .four (by omega) hvalid, ?_⟩
        rw [Nat.mod_eq_of_lt (by omega : c.toNat / 262144 < 8), Nat.add_comm]
        simp [units]

/-- Of two numbers the one with the smaller lower bits has the smaller bytes. -/
theorem units_lt {n v w : Nat} (h : v % 64 ^ n < w % 64 ^ n) (xs ys : List UInt8) :
    units n v ++ xs < units n w ++ ys := by
  induction n with
  | zero => simp [Nat.mod_one] at h
  | succ n ih =>
    rw [Nat.pow_succ, Nat.mod_mul, Nat.mod_mul] at h
    rw [units, units, List.cons_append, List.cons_append, List.cons_lt_cons_iff]
    have hbyte (x : Nat) : x / 64 ^ n % 64 + 128 < 256 := by
      have hbits : x / 64 ^ n % 64 < 64 := Nat.mod_lt _ (by decide)
      omega
    rcases Nat.lt_trichotomy (v / 64 ^ n % 64) (w / 64 ^ n % 64) with hlt | heq | hgt
    · exact .inl ((UInt8.ofNat_lt_iff_lt (hbyte v) (hbyte w)).2 (by omega))
    · rw [heq] at h ⊢
      exact .inr ⟨rfl, ih (by omega)⟩
    · -- Then the upper bits alone would make the first number the greater one.
      have hunit : w % 64 ^ n < 64 ^ n := Nat.mod_lt w (Nat.pow_pos (by decide))
      have hstep : 64 ^ n * (w / 64 ^ n % 64 + 1) ≤ 64 ^ n * (v / 64 ^ n % 64) :=
        Nat.mul_le_mul_left _ hgt
      rw [Nat.mul_add, Nat.mul_one] at hstep
      omega

/-- More bytes make a greater first byte; with as many, the upper bits decide. -/
theorem Lead.lt_or_eq {v w n m start start' : Nat} (hv : Lead v n start) (hw : Lead w m start')
    (h : v < w) : start + v / 64 ^ n < start' + w / 64 ^ m ∨ n = m ∧ start = start' := by
  cases hv <;> cases hw <;> first
    | exact .inr ⟨rfl, rfl⟩
    | left; omega

theorem Lead.first_lt {w m start : Nat} (h : Lead w m start) : start + w / 64 ^ m < 256 := by
  cases h <;> omega

/-- The bytes of the smaller character come first, whatever stands behind them. -/
theorem utf8EncodeChar_lt {c d : Char} (h : c < d) (xs ys : List UInt8) :
    String.utf8EncodeChar c ++ xs < String.utf8EncodeChar d ++ ys := by
  obtain ⟨n, start, hc, hcbytes⟩ := exists_units c
  obtain ⟨m, start', hd, hdbytes⟩ := exists_units d
  have hlt : c.toNat < d.toNat := h
  have hbyte := hd.first_lt
  rw [hcbytes, hdbytes, List.cons_append, List.cons_append, List.cons_lt_cons_iff]
  rcases hc.lt_or_eq hd hlt with hfirst | ⟨rfl, rfl⟩
  · exact .inl ((UInt8.ofNat_lt_iff_lt (Nat.lt_trans hfirst hbyte) hbyte).2 hfirst)
  · rcases Nat.lt_or_ge (c.toNat / 64 ^ n) (d.toNat / 64 ^ n) with hupper | hupper
    · exact .inl ((UInt8.ofNat_lt_iff_lt hc.first_lt hbyte).2 (Nat.add_lt_add_left hupper start))
    · have hequal : c.toNat / 64 ^ n = d.toNat / 64 ^ n :=
        Nat.le_antisymm (Nat.div_le_div_right (Nat.le_of_lt hlt)) hupper
      have hc' := Nat.div_add_mod c.toNat (64 ^ n)
      have hd' := Nat.div_add_mod d.toNat (64 ^ n)
      rw [hequal] at hc' ⊢
      exact .inr ⟨rfl, units_lt (by omega) xs ys⟩

/-! ## Texts -/

theorem flatMap_utf8EncodeChar_lt {cs ds : List Char} (h : cs < ds) :
    cs.flatMap String.utf8EncodeChar < ds.flatMap String.utf8EncodeChar := by
  induction h with
  | nil =>
    obtain ⟨b, bs, hbytes⟩ := List.exists_cons_of_ne_nil String.utf8EncodeChar_ne_nil
    rw [List.flatMap_cons, hbytes]
    exact .nil
  | rel h =>
    rw [List.flatMap_cons, List.flatMap_cons]
    exact utf8EncodeChar_lt h _ _
  | cons _ ih =>
    rw [List.flatMap_cons, List.flatMap_cons]
    exact List.append_left_lt ih

theorem bytes_lt {s t : String} (h : s < t) : bytes s < bytes t := by
  rw [bytes_eq, bytes_eq]
  exact flatMap_utf8EncodeChar_lt (String.lt_iff.1 h)

/-- **Texts are in the order of their bytes.** -/
theorem bytes_lt_iff {s t : String} : bytes s < bytes t ↔ s < t := by
  refine ⟨fun h => ?_, bytes_lt⟩
  apply Decidable.byContradiction
  intro hnot
  by_cases hlt : t < s
  · exact List.lt_asymm h (bytes_lt hlt)
  · have heq : s = t := String.le_antisymm (String.not_lt.1 hlt) (String.not_lt.1 hnot)
    rw [heq] at h
    exact List.lt_irrefl _ h

theorem bytes_le_iff {s t : String} : bytes s ≤ bytes t ↔ s ≤ t := by
  rw [← List.not_lt, bytes_lt_iff, String.not_lt]

end Abacus.Text
