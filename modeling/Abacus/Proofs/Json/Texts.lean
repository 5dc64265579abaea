import Abacus.Json.Draft
import Abacus.Json.Writer

/-!
# Texts between quotes

What the grammar of JSON admits between quotes (`Body`), and what spells given characters there
(`Spells`): each character as it is or escaped, in one of the ways there are for it.

The reader takes the one as a whole (`textBody_of_body`) and gives the characters of the other
(`textBody_of_spells`). The grammar does not know that the halves of surrogate pairs belong together,
so the first of these is said of any state of the reader. What the writer puts between quotes spells
what it writes (`spells_escaped`).
-/

namespace Abacus.Json

/-! ## The grammar -/

/-- The letters that escape a character of their own. -/
def escapeLetters : List Char := ['"', '\\', '/', 'b', 'f', 'n', 'r', 't']

/-- A digit of base sixteen. -/
def IsHex (c : Char) : Prop :=
  ('0' ≤ c ∧ c ≤ '9') ∨ ('a' ≤ c ∧ c ≤ 'f') ∨ ('A' ≤ c ∧ c ≤ 'F')

/-- What may stand between the quotes of a text. -/
inductive Body : List Char → Prop
  | nil : Body []
  | plain {c : Char} {body : List Char} : 0x20 ≤ c.toNat → c ≠ '"' → c ≠ '\\' → Body body →
      Body (c :: body)
  | escape {e : Char} {body : List Char} : e ∈ escapeLetters → Body body → Body ('\\' :: e :: body)
  | unicode {a b c d : Char} {body : List Char} : IsHex a → IsHex b → IsHex c → IsHex d →
      Body body → Body ('\\' :: 'u' :: a :: b :: c :: d :: body)

/-- What stands between the quotes spells some characters. One and the same character can be spelled
in many ways. -/
inductive Spells : List Char → List Char → Prop
  | nil : Spells [] []
  | plain {c : Char} {body cs : List Char} : 0x20 ≤ c.toNat → c ≠ '"' → c ≠ '\\' →
      Spells body cs → Spells (c :: body) (c :: cs)
  | escape {e c : Char} {body cs : List Char} : escaped? e = some c → Spells body cs →
      Spells ('\\' :: e :: body) (c :: cs)
  | unicode {a b c d : Char} {n : Nat} {body cs : List Char} : fourHex? a b c d = some n →
      isHighSurrogate n = false → isLowSurrogate n = false → Spells body cs →
      Spells ('\\' :: 'u' :: a :: b :: c :: d :: body) (Char.ofNat n :: cs)
  | pair {a b c d a' b' c' d' : Char} {high low : Nat} {body cs : List Char} :
      fourHex? a b c d = some high → isHighSurrogate high = true →
      fourHex? a' b' c' d' = some low → isLowSurrogate low = true → Spells body cs →
      Spells ('\\' :: 'u' :: a :: b :: c :: d :: '\\' :: 'u' :: a' :: b' :: c' :: d' :: body)
        (ofSurrogates high low :: cs)

theorem mem_escapeLetters {e c : Char} (h : escaped? e = some c) : e ∈ escapeLetters := by
  unfold escaped? at h
  split at h
  case h_9 => cases h
  all_goals decide

theorem isHex_of_hexValue? {c : Char} {n : Nat} (h : Text.hexValue? c = some n) : IsHex c := by
  unfold Text.hexValue? at h
  split at h
  next hdigit => exact .inl hdigit
  next =>
    split at h
    next hsmall => exact .inr (.inl hsmall)
    next =>
      split at h
      next hcapital => exact .inr (.inr hcapital)
      next => cases h

theorem isHex_of_fourHex? {a b c d : Char} {n : Nat} (h : fourHex? a b c d = some n) :
    IsHex a ∧ IsHex b ∧ IsHex c ∧ IsHex d := by
  simp only [fourHex?, Option.bind_eq_bind, Option.bind_eq_some_iff] at h
  obtain ⟨i, hi, j, hj, k, hk, l, hl, -⟩ := h
  exact ⟨isHex_of_hexValue? hi, isHex_of_hexValue? hj, isHex_of_hexValue? hk,
    isHex_of_hexValue? hl⟩

/-- What spells something may stand between quotes. -/
theorem Spells.body {body cs : List Char} (h : Spells body cs) : Body body := by
  induction h with
  | nil => exact .nil
  | plain hc hquote hslash _ ih => exact .plain hc hquote hslash ih
  | escape he _ ih => exact .escape (mem_escapeLetters he) ih
  | unicode hn _ _ _ ih =>
    obtain ⟨ha, hb, hc, hd⟩ := isHex_of_fourHex? hn
    exact .unicode ha hb hc hd ih
  | pair hhigh _ hlow _ _ ih =>
    obtain ⟨ha, hb, hc, hd⟩ := isHex_of_fourHex? hhigh
    obtain ⟨ha', hb', hc', hd'⟩ := isHex_of_fourHex? hlow
    exact .unicode ha hb hc hd (.unicode ha' hb' hc' hd' ih)

/-! ## Reading -/

/-- The character put in front of what is read behind it. -/
theorem textBody_plain {c : Char} (hc : 0x20 ≤ c.toNat) (hquote : c ≠ '"') (hslash : c ≠ '\\')
    (high : Option Nat) (rest : List Char) :
    textBody high (c :: rest) =
      (textBody none rest).after ((waiting high).map (· ++ [c])) := by
  have hnot : ¬(c.toNat < 0x20 ∨ c = '\\') := by
    rintro (h | h)
    · omega
    · exact hslash h
  rw [textBody.eq_def]
  split
  next heq => cases heq
  next heq =>
    cases heq
    exact absurd rfl hquote
  next heq =>
    cases heq
    exact absurd rfl hslash
  next heq =>
    cases heq
    exact absurd rfl hslash
  next c' rest' _ _ _ heq =>
    obtain ⟨rfl, rfl⟩ := List.cons.inj heq
    rw [if_neg hnot]

theorem textBody_escape {e c : Char} (h : escaped? e = some c) (high : Option Nat)
    (rest : List Char) :
    textBody high ('\\' :: e :: rest) =
      (textBody none rest).after ((waiting high).map (· ++ [c])) := by
  have hu : e ≠ 'u' := by
    rintro rfl
    cases h
  rw [textBody.eq_def]
  split
  next heq => cases heq
  next heq => cases heq
  next heq =>
    obtain ⟨-, heq⟩ := List.cons.inj heq
    exact absurd (List.cons.inj heq).1 hu
  next heq =>
    cases heq
    rw [h]
  next _ _ hnot heq =>
    obtain ⟨rfl, rfl⟩ := List.cons.inj heq
    exact (hnot e rest rfl rfl).elim

theorem textBody_unicode {a b c d : Char} {n : Nat} (h : fourHex? a b c d = some n)
    (high : Option Nat) (rest : List Char) :
    textBody high ('\\' :: 'u' :: a :: b :: c :: d :: rest) =
      if isHighSurrogate n then (textBody (some n) rest).after (waiting high)
      else if isLowSurrogate n then
        (textBody none rest).after (high.map fun h => [ofSurrogates h n])
      else (textBody none rest).after ((waiting high).map (· ++ [Char.ofNat n])) := by
  simp only [textBody, h]

theorem after_some (front text : Option (List Char)) (rest : List Char) :
    TextResult.after front (some (text, rest)) =
      some (front.bind fun cs => text.map (cs ++ ·), rest) := rfl

theorem escaped?_of_mem {e : Char} (h : e ∈ escapeLetters) : ∃ c, escaped? e = some c := by
  simp only [escapeLetters, List.mem_cons, List.not_mem_nil, or_false] at h
  rcases h with rfl | rfl | rfl | rfl | rfl | rfl | rfl | rfl <;> exact ⟨_, rfl⟩

theorem hexValue?_of_isHex {c : Char} (h : IsHex c) : ∃ n, Text.hexValue? c = some n := by
  unfold Text.hexValue?
  split
  next => exact ⟨_, rfl⟩
  next hdigit =>
    split
    next => exact ⟨_, rfl⟩
    next hsmall =>
      exact ⟨_, if_pos ((h.resolve_left hdigit).resolve_left hsmall)⟩

theorem fourHex?_of_isHex {a b c d : Char} (ha : IsHex a) (hb : IsHex b) (hc : IsHex c)
    (hd : IsHex d) : ∃ n, fourHex? a b c d = some n := by
  obtain ⟨i, hi⟩ := hexValue?_of_isHex ha
  obtain ⟨j, hj⟩ := hexValue?_of_isHex hb
  obtain ⟨k, hk⟩ := hexValue?_of_isHex hc
  obtain ⟨l, hl⟩ := hexValue?_of_isHex hd
  exact ⟨_, by simp only [fourHex?, hi, hj, hk, hl]; rfl⟩

/-- What the grammar admits between quotes is read as a whole, whatever it is worth. -/
theorem textBody_of_body {body : List Char} (h : Body body) (high : Option Nat) :
    ∃ text, ∀ rest, textBody high (body ++ '"' :: rest) = some (text, rest) := by
  induction h generalizing high with
  | nil => exact ⟨waiting high, fun rest => rfl⟩
  | plain hc hquote hslash _ ih =>
    obtain ⟨text, htext⟩ := ih none
    simp only [List.cons_append, textBody_plain hc hquote hslash, htext, after_some]
    exact ⟨_, fun rest => rfl⟩
  | escape he _ ih =>
    obtain ⟨c, hc⟩ := escaped?_of_mem he
    obtain ⟨text, htext⟩ := ih none
    simp only [List.cons_append, textBody_escape hc, htext, after_some]
    exact ⟨_, fun rest => rfl⟩
  | unicode ha hb hc hd _ ih =>
    obtain ⟨n, hn⟩ := fourHex?_of_isHex ha hb hc hd
    obtain ⟨first, hfirst⟩ := ih (some n)
    obtain ⟨text, htext⟩ := ih none
    simp only [List.cons_append, textBody_unicode hn, hfirst, htext, after_some]
    split
    · exact ⟨_, fun rest => rfl⟩
    · split
      · exact ⟨_, fun rest => rfl⟩
      · exact ⟨_, fun rest => rfl⟩

/-- What spells some characters is read as these. -/
theorem textBody_of_spells {body cs : List Char} (h : Spells body cs) (rest : List Char) :
    textBody none (body ++ '"' :: rest) = some (some cs, rest) := by
  induction h with
  | nil => rfl
  | plain hc hquote hslash _ ih =>
    rw [List.cons_append, textBody_plain hc hquote hslash, ih]
    rfl
  | escape he _ ih =>
    rw [List.cons_append, List.cons_append, textBody_escape he, ih]
    rfl
  | unicode hn hhigh hlow _ ih =>
    simp only [List.cons_append, textBody_unicode hn, hhigh, hlow, ih]
    rfl
  | @pair a b c d a' b' c' d' high low body cs hh hhigh hl hlow _ ih =>
    have hnot : isHighSurrogate low = false := by
      simp only [isLowSurrogate, isHighSurrogate, Bool.and_eq_true, Bool.and_eq_false_iff,
        decide_eq_true_eq, decide_eq_false_iff_not] at hlow ⊢
      omega
    simp only [List.cons_append, textBody_unicode hh, textBody_unicode hl, hhigh, hnot, hlow, ih]
    rfl

/-! ## Writing -/

/-- The escape of a control gives back its code point, which is no half of a surrogate pair. -/
theorem unicodeEscape_reads : ∀ n < 0x20, ∃ a b c d, unicodeEscape n = ['\\', 'u', a, b, c, d] ∧
    fourHex? a b c d = some n ∧ isHighSurrogate n = false ∧ isLowSurrogate n = false := by
  intro n hn
  refine ⟨_, _, _, _, rfl, ?_⟩
  revert n
  decide

/-- What the writer puts between quotes spells the characters that are written. -/
theorem spells_escapeChar {body cs : List Char} (c : Char) (h : Spells body cs) :
    Spells (escapeChar c ++ body) (c :: cs) := by
  unfold escapeChar
  split
  case h_8 =>
    split
    next hc =>
      obtain ⟨a, b, d, e, htext, hread, hhigh, hlow⟩ := unicodeEscape_reads c.toNat hc
      have hspell := Spells.unicode hread hhigh hlow h
      rw [Char.ofNat_toNat] at hspell
      rw [htext]
      exact hspell
    next hc => exact .plain (by omega) (by assumption) (by assumption) h
  all_goals exact .escape rfl h

theorem spells_escaped (cs : List Char) : Spells (cs.flatMap escapeChar) cs := by
  induction cs with
  | nil => exact .nil
  | cons c cs ih => exact spells_escapeChar c ih

end Abacus.Json
