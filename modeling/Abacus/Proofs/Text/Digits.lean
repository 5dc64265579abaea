import Abacus.Text.Blank
import Abacus.Text.Integer
import Mathlib.Data.List.TakeWhile

/-!
# Decimal digits

What a written integer consists of, and that its digits give back its magnitude. All readers of
numbers (those of operations and variables, of TOML and of JSON) build on these facts.
-/

namespace Abacus.Text

/-! ## Cuts -/

theorem takeWhile_append_stop {p : Char → Bool} {cs rest : List Char} (hcs : ∀ c ∈ cs, p c = true)
    (hrest : ∀ c ∈ rest.head?, p c = false) : (cs ++ rest).takeWhile p = cs := by
  rw [List.takeWhile_append_of_pos hcs]
  cases rest with
  | nil => simp
  | cons c rest => simp [hrest c rfl]

theorem dropWhile_append_stop {p : Char → Bool} {cs rest : List Char} (hcs : ∀ c ∈ cs, p c = true)
    (hrest : ∀ c ∈ rest.head?, p c = false) : (cs ++ rest).dropWhile p = rest := by
  rw [List.dropWhile_append_of_pos hcs]
  cases rest with
  | nil => simp
  | cons c rest => simp [hrest c rfl]

theorem dropWhile_of_head {p : Char → Bool} {cs : List Char}
    (hcs : ∀ c ∈ cs.head?, p c = false) : cs.dropWhile p = cs :=
  show ([] ++ cs).dropWhile p = cs from dropWhile_append_stop (by simp) hcs

/-! ## Characters -/

theorem toNat_of_isDigit {c : Char} (h : c.isDigit = true) : 48 ≤ c.toNat ∧ c.toNat ≤ 57 :=
  Char.isDigit_iff_toNat.1 h

/-- What holds of the ten digits holds of every digit. -/
theorem of_isDigit {p : Char → Prop} (h : ∀ n < 58, 48 ≤ n → p (Char.ofNat n)) {c : Char}
    (hc : c.isDigit = true) : p c := by
  obtain ⟨hlow, hhigh⟩ := toNat_of_isDigit hc
  have hp := h c.toNat (by omega) hlow
  rwa [Char.ofNat_toNat] at hp

theorem isBlank_of_isDigit {c : Char} (h : c.isDigit = true) : isBlank c = false :=
  of_isDigit (p := fun c => isBlank c = false) (by decide) h

theorem digit?_of_isDigit {c : Char} (h : c.isDigit = true) : digit? c = some (c.toNat - 48) := by
  obtain ⟨hlow, hhigh⟩ := toNat_of_isDigit h
  have hle : '0' ≤ c ∧ c ≤ '9' := ⟨hlow, hhigh⟩
  simp [digit?, hle]

theorem hexValue?_of_isDigit {c : Char} (h : c.isDigit = true) :
    hexValue? c = some (c.toNat - 48) := by
  obtain ⟨hlow, hhigh⟩ := toNat_of_isDigit h
  have hle : '0' ≤ c ∧ c ≤ '9' := ⟨hlow, hhigh⟩
  simp [hexValue?, hle]

theorem isDigit_of_digit? {c : Char} {d : Nat} (h : digit? c = some d) : c.isDigit = true := by
  simp only [digit?] at h
  split at h
  next hle => exact Char.isDigit_iff_toNat.2 hle
  next => cases h

theorem digit?_eq_none {c : Char} (h : c.isDigit = false) : digit? c = none := by
  cases hd : digit? c with
  | none => rfl
  | some d => rw [isDigit_of_digit? hd] at h; cases h

/-! ## The digits of a natural number -/

theorem isDigit_of_mem_natDigits {n : Nat} {c : Char} (h : c ∈ natDigits n) : c.isDigit = true :=
  Nat.isDigit_of_mem_toDigits (by decide) (by decide) h

theorem natDigits_ne_nil (n : Nat) : natDigits n ≠ [] := Nat.toDigits_ne_nil

@[simp] theorem ofDigitChars_natDigits (n : Nat) : Nat.ofDigitChars 10 (natDigits n) 0 = n :=
  Nat.ofDigitChars_ten_toDigits

/-- Only zero is written with a leading zero. -/
theorem head_natDigits {n : Nat} (hn : 0 < n) : ∀ c ∈ (natDigits n).head?, c ≠ '0' := by
  induction n using Nat.strongRecOn with
  | ind n ih =>
    intro c hc
    rw [natDigits, Nat.toDigits_eq_if (by decide)] at hc
    split at hc
    next hlt =>
      simp only [List.head?_cons, Option.mem_def, Option.some.injEq] at hc
      have hdigit : ∀ m < 10, 0 < m → m.digitChar ≠ '0' := by decide
      exact hc ▸ hdigit n hlt hn
    next hge =>
      obtain ⟨d, ds, hds⟩ := List.exists_cons_of_ne_nil (natDigits_ne_nil (n / 10))
      have hd := ih (n / 10) (by omega) (by omega) d (by simp [hds])
      rw [natDigits] at hds
      simp only [hds, List.cons_append, List.head?_cons, Option.mem_def, Option.some.injEq] at hc
      exact hc ▸ hd

/-! ## Reading integers -/

theorem le_ofDigitChars (cs : List Char) (acc : Nat) : acc ≤ Nat.ofDigitChars 10 cs acc := by
  induction cs generalizing acc with
  | nil => simp
  | cons c cs ih =>
    rw [Nat.ofDigitChars_cons]
    exact Nat.le_trans (by omega) (ih _)

/-- Digits that are in range are passed. -/
theorem readMagnitude_append {limit : Nat} {overflow : IntegerError} {ds : List Char} {acc : Nat}
    (hds : ∀ d ∈ ds, d.isDigit = true) (h : Nat.ofDigitChars 10 ds acc ≤ limit)
    (cs : List Char) : readMagnitude limit overflow acc (ds ++ cs) =
      readMagnitude limit overflow (Nat.ofDigitChars 10 ds acc) cs := by
  induction ds generalizing acc with
  | nil => simp
  | cons d ds ih =>
    rw [Nat.ofDigitChars_cons] at h ⊢
    have hle := Nat.le_trans (le_ofDigitChars ds _) h
    simp only [List.cons_append, readMagnitude, digit?_of_isDigit (hds d List.mem_cons_self)]
    exact (if_pos hle).trans (ih (fun d' hd' => hds d' (List.mem_cons_of_mem _ hd')) h)

/-- Digits are read up to the limit, ... -/
theorem readMagnitude_of_isDigit {limit : Nat} {overflow : IntegerError} {cs : List Char}
    {acc : Nat} (hcs : ∀ c ∈ cs, c.isDigit = true) (h : Nat.ofDigitChars 10 cs acc ≤ limit) :
    readMagnitude limit overflow acc cs = .ok (Nat.ofDigitChars 10 cs acc) := by
  have hread : readMagnitude limit overflow acc (cs ++ []) =
      readMagnitude limit overflow (Nat.ofDigitChars 10 cs acc) [] :=
    readMagnitude_append hcs h []
  rwa [List.append_nil] at hread

/-- ... and nothing else is. -/
theorem isDigit_of_readMagnitude {limit : Nat} {overflow : IntegerError} {cs : List Char}
    {acc n : Nat} (hacc : acc ≤ limit) (h : readMagnitude limit overflow acc cs = .ok n) :
    (∀ c ∈ cs, c.isDigit = true) ∧ n = Nat.ofDigitChars 10 cs acc ∧ n ≤ limit := by
  induction cs generalizing acc with
  | nil =>
    cases h
    exact ⟨by simp, by simp, hacc⟩
  | cons c cs ih =>
    rw [readMagnitude] at h
    cases hd : digit? c with
    | none =>
      rw [hd] at h
      cases h
    | some d =>
      simp only [hd] at h
      split at h
      next hle =>
        obtain ⟨hcs, hn, hlimit⟩ := ih hle h
        have hc := isDigit_of_digit? hd
        rw [digit?_of_isDigit hc, Option.some.injEq] at hd
        refine ⟨fun c' hc' => ?_, ?_, hlimit⟩
        · rcases List.mem_cons.1 hc' with rfl | hc'
          · exact hc
          · exact hcs c' hc'
        · rw [Nat.ofDigitChars_cons, hn, ← hd]
          rfl
      next => cases h

/-- A text that is read as an integer: a sign, if there is one, and digits. -/
inductive Written (below above : Nat) : List Char → Int → Prop
  | plain {c : Char} {cs : List Char} (hdigits : ∀ d ∈ c :: cs, d.isDigit = true)
      (hle : Nat.ofDigitChars 10 (c :: cs) 0 ≤ above) :
      Written below above (c :: cs) (Nat.ofDigitChars 10 (c :: cs) 0)
  | plus {c : Char} {cs : List Char} (hdigits : ∀ d ∈ c :: cs, d.isDigit = true)
      (hle : Nat.ofDigitChars 10 (c :: cs) 0 ≤ above) :
      Written below above ('+' :: c :: cs) (Nat.ofDigitChars 10 (c :: cs) 0)
  | minus {c : Char} {cs : List Char} (hdigits : ∀ d ∈ c :: cs, d.isDigit = true)
      (hle : Nat.ofDigitChars 10 (c :: cs) 0 ≤ below) :
      Written below above ('-' :: c :: cs) (-(Nat.ofDigitChars 10 (c :: cs) 0 : Int))

/-- How a text starts, for a reader of integers. -/
inductive Start : List Char → Prop
  | empty : Start []
  | sign {c : Char} : c = '+' ∨ c = '-' → Start [c]
  | plain {c : Char} (cs : List Char) : c ≠ '+' → c ≠ '-' → Start (c :: cs)
  | plus (c : Char) (cs : List Char) : Start ('+' :: c :: cs)
  | minus (c : Char) (cs : List Char) : Start ('-' :: c :: cs)

theorem start (cs : List Char) : Start cs := by
  rcases cs with - | ⟨c, cs⟩
  · exact .empty
  by_cases hplus : c = '+'
  · subst hplus
    cases cs with
    | nil => exact .sign (.inl rfl)
    | cons c cs => exact .plus c cs
  by_cases hminus : c = '-'
  · subst hminus
    cases cs with
    | nil => exact .sign (.inr rfl)
    | cons c cs => exact .minus c cs
  exact .plain cs hplus hminus

theorem readInteger_sign (below above : Nat) {c : Char} (h : c = '+' ∨ c = '-') :
    readInteger below above [c] = .error .invalidDigit := by
  rcases h with rfl | rfl <;> rfl

theorem readInteger_of_no_sign {below above : Nat} {c : Char} (hplus : c ≠ '+')
    (hminus : c ≠ '-') (cs : List Char) :
    readInteger below above (c :: cs) =
      (readMagnitude above .tooLarge 0 (c :: cs)).map Int.ofNat := by
  rw [readInteger.eq_def]
  simp [hplus, hminus]

theorem readInteger_plus (below above : Nat) (c : Char) (cs : List Char) :
    readInteger below above ('+' :: c :: cs) =
      (readMagnitude above .tooLarge 0 (c :: cs)).map Int.ofNat := by
  rw [readInteger.eq_def]
  rfl

theorem readInteger_minus (below above : Nat) (c : Char) (cs : List Char) :
    readInteger below above ('-' :: c :: cs) =
      (readMagnitude below .tooSmall 0 (c :: cs)).map fun n : Nat => -(n : Int) := by
  rw [readInteger.eq_def]
  simp only
  cases readMagnitude below .tooSmall 0 (c :: cs) <;> rfl

theorem ne_sign_of_isDigit {c : Char} (hc : c.isDigit = true) : c ≠ '+' ∧ c ≠ '-' := by
  constructor
  all_goals
    rintro rfl
    exact absurd hc (by decide)

theorem map_eq_ok {α β ε : Type} {f : α → β} {r : Except ε α} {b : β}
    (h : r.map f = .ok b) : ∃ a, r = .ok a ∧ f a = b := by
  cases r with
  | error e => cases h
  | ok a => exact ⟨a, rfl, Except.ok.inj h⟩

theorem map_eq_error {α β ε : Type} {f : α → β} {r : Except ε α} {e : ε} :
    r.map f = .error e ↔ r = .error e := by
  cases r with
  | error e' => simp only [Except.map, Except.error.injEq]
  | ok a => exact ⟨nofun, nofun⟩

/-- Exactly the written integers are read. -/
theorem readInteger_eq_ok {below above : Nat} {cs : List Char} {n : Int} :
    readInteger below above cs = .ok n ↔ Written below above cs n := by
  constructor
  · intro h
    cases start cs with
    | empty => cases h
    | sign hsign =>
      rw [readInteger_sign below above hsign] at h
      cases h
    | plain cs hplus hminus =>
      rw [readInteger_of_no_sign hplus hminus] at h
      obtain ⟨m, hm, rfl⟩ := map_eq_ok h
      obtain ⟨hdigits, rfl, hle⟩ := isDigit_of_readMagnitude (Nat.zero_le _) hm
      exact .plain hdigits hle
    | plus c cs =>
      rw [readInteger_plus] at h
      obtain ⟨m, hm, rfl⟩ := map_eq_ok h
      obtain ⟨hdigits, rfl, hle⟩ := isDigit_of_readMagnitude (Nat.zero_le _) hm
      exact .plus hdigits hle
    | minus c cs =>
      rw [readInteger_minus] at h
      obtain ⟨m, hm, rfl⟩ := map_eq_ok h
      obtain ⟨hdigits, rfl, hle⟩ := isDigit_of_readMagnitude (Nat.zero_le _) hm
      exact .minus hdigits hle
  · intro h
    cases h with
    | @plain c cs hdigits hle =>
      obtain ⟨hplus, hminus⟩ := ne_sign_of_isDigit (hdigits c List.mem_cons_self)
      rw [readInteger_of_no_sign hplus hminus, readMagnitude_of_isDigit hdigits hle]
      rfl
    | @plus c cs hdigits hle =>
      rw [readInteger_plus, readMagnitude_of_isDigit hdigits hle]
      rfl
    | @minus c cs hdigits hle =>
      rw [readInteger_minus, readMagnitude_of_isDigit hdigits hle]
      rfl

/-- A reader with a wider range reads as much. -/
theorem Written.mono {below above below' above' : Nat} {cs : List Char} {n : Int}
    (h : Written below above cs n) (hbelow : below ≤ below') (habove : above ≤ above') :
    Written below' above' cs n := by
  cases h with
  | plain hdigits hle => exact .plain hdigits (Nat.le_trans hle habove)
  | plus hdigits hle => exact .plus hdigits (Nat.le_trans hle habove)
  | minus hdigits hle => exact .minus hdigits (Nat.le_trans hle hbelow)

/-- Without a minus nothing is read from below zero. -/
theorem Written.of_no_minus {below above above' : Nat} {cs : List Char} {n : Int}
    (h : Written below above cs n) (hminus : ∀ c ∈ cs.head?, c ≠ '-') (habove : above ≤ above') :
    Written 0 above' cs n := by
  cases h with
  | plain hdigits hle => exact .plain hdigits (Nat.le_trans hle habove)
  | plus hdigits hle => exact .plus hdigits (Nat.le_trans hle habove)
  | minus hdigits hle => exact absurd rfl (hminus '-' rfl)

theorem Written.bounds {below above : Nat} {cs : List Char} {n : Int}
    (h : Written below above cs n) : -(below : Int) ≤ n ∧ n ≤ above := by
  cases h with
  | plain hdigits hle => omega
  | plus hdigits hle => omega
  | minus hdigits hle => omega

/-- Nothing but signs and digits is in a text that is read as an integer. -/
theorem Written.forall_mem {below above : Nat} {cs : List Char} {n : Int} {p : Char → Prop}
    (h : Written below above cs n) (hplus : p '+') (hminus : p '-')
    (hdigit : ∀ c : Char, c.isDigit = true → p c) : ∀ c ∈ cs, p c := by
  cases h with
  | plain hdigits => exact fun c hc => hdigit c (hdigits c hc)
  | plus hdigits =>
    exact List.forall_mem_cons.2 ⟨hplus, fun c hc => hdigit c (hdigits c hc)⟩
  | minus hdigits =>
    exact List.forall_mem_cons.2 ⟨hminus, fun c hc => hdigit c (hdigits c hc)⟩

/-! ## Written integers -/

theorem toList_renderNat (n : Nat) : (renderNat n).toList = natDigits n := String.toList_ofList

theorem toList_renderInt_of_nonneg {n : Int} (h : 0 ≤ n) :
    (renderInt n).toList = natDigits n.natAbs := by
  cases n with
  | ofNat n => exact toList_renderNat n
  | negSucc n => exact absurd h (by simp)

theorem toList_renderInt_of_neg {n : Int} (h : n < 0) :
    (renderInt n).toList = '-' :: natDigits n.natAbs := by
  cases n with
  | ofNat n => exact absurd h (by simp)
  | negSucc n => simp [renderInt, toList_renderNat]

/-- A written integer starts with a minus sign or a digit. -/
theorem head_renderInt (n : Int) :
    ∃ c cs, (renderInt n).toList = c :: cs ∧ (c = '-' ∨ c.isDigit = true) := by
  by_cases h : n < 0
  · exact ⟨_, _, toList_renderInt_of_neg h, .inl rfl⟩
  · obtain ⟨c, cs, hcs⟩ := List.exists_cons_of_ne_nil (natDigits_ne_nil n.natAbs)
    refine ⟨c, cs, (toList_renderInt_of_nonneg (by omega)).trans hcs, .inr ?_⟩
    exact isDigit_of_mem_natDigits (n := n.natAbs) (by simp [hcs])

end Abacus.Text
