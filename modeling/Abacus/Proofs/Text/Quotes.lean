import Abacus.Proofs.Text.Blanks
import Abacus.Text.Quoted

/-!
# Quoted texts can be told apart

The characters between quotes can be taken off one by one: the escape of a character is read as that
character, whatever stands behind it (`unquoteChar?_quoteChar`), and no escape starts with a quote.
So two texts in front of anything can be told apart where they are quoted (`quoted_cancel`), and by
induction so can lists of them (`quotedList_injective`): what an entry holds is never taken for the
border between two entries.

No control stands between quotes, so a quoted text is one line (`shown_quotedList`).
-/

namespace Abacus.Text

/-! ## Digits of base sixteen -/

/-- The last digit stands behind the digits of the quotient. -/
theorem hexDigits_induction {motive : Nat → List Char → Prop}
    (digit : ∀ d < 16, motive d [Nat.digitChar d])
    (append : ∀ n ds, motive n ds → ∀ d < 16, motive (16 * n + d) (ds ++ [Nat.digitChar d]))
    (n : Nat) : motive n (Nat.toDigits 16 n) := by
  induction n using Nat.strongRecOn with
  | ind n ih =>
    rw [Nat.toDigits_eq_if (by decide)]
    split
    next hlt => exact digit n hlt
    next hge =>
      have hlast := append (n / 16) _ (ih (n / 16) (by omega)) (n % 16) (Nat.mod_lt n (by decide))
      rwa [Nat.div_add_mod] at hlast

theorem forall_mem_hexDigits {p : Char → Prop} (h : ∀ d < 16, p (Nat.digitChar d)) (n : Nat) :
    ∀ c ∈ Nat.toDigits 16 n, p c := by
  refine hexDigits_induction (motive := fun _ ds => ∀ c ∈ ds, p c) ?_ ?_ n
  · intro d hd
    exact List.forall_mem_singleton.2 (h d hd)
  · intro n ds hds d hd
    exact List.forall_mem_append.2 ⟨hds, List.forall_mem_singleton.2 (h d hd)⟩

/-- The number that digits of base sixteen write. -/
def ofHexDigits (cs : List Char) : Nat :=
  cs.foldl (fun n c => 16 * n + (hexValue? c).getD 0) 0

theorem ofHexDigits_toDigits (n : Nat) : ofHexDigits (Nat.toDigits 16 n) = n := by
  have hdigit : ∀ d < 16, (hexValue? (Nat.digitChar d)).getD 0 = d := by decide
  refine hexDigits_induction (motive := fun n ds => ofHexDigits ds = n) ?_ ?_ n
  · intro d hd
    rw [ofHexDigits, List.foldl_cons, hdigit d hd, Nat.mul_zero, Nat.zero_add]
    rfl
  · intro n ds hds d hd
    rw [ofHexDigits] at hds ⊢
    rw [List.foldl_append, hds, List.foldl_cons, hdigit d hd]
    rfl

/-! ## Characters -/

/-- The character that a letter behind a backslash stands for. -/
def unescaped? : Char → Option Char
  | '"' => some '"'
  | '\\' => some '\\'
  | 'n' => some '\n'
  | 't' => some '\t'
  | 'r' => some '\r'
  | '0' => some '\x00'
  | _ => none

/-- The first character of what stands between quotes and what follows it. -/
def unquoteChar? : List Char → Option (Char × List Char)
  | '\\' :: 'u' :: '\x7b' :: cs =>
    (cut '\x7d' cs).map fun (hex, rest) => (Char.ofNat (ofHexDigits hex), rest)
  | '\\' :: e :: cs => (unescaped? e).map (·, cs)
  | c :: cs => if c = '"' then none else some (c, cs)
  | [] => none

theorem unquoteChar?_codePointEscape (c : Char) (rest : List Char) :
    unquoteChar? (codePointEscape c ++ rest) = some (c, rest) := by
  have hbrace : '\x7d' ∉ Nat.toDigits 16 c.toNat := fun h =>
    forall_mem_hexDigits (p := (· ≠ '\x7d')) (by decide) c.toNat _ h rfl
  have hcut : cut '\x7d' (Nat.toDigits 16 c.toNat ++ '\x7d' :: rest) =
      some (Nat.toDigits 16 c.toNat, rest) := cut_eq_some_iff.2 ⟨rfl, hbrace⟩
  have htext : codePointEscape c ++ rest =
      '\\' :: 'u' :: '\x7b' :: (Nat.toDigits 16 c.toNat ++ '\x7d' :: rest) := by
    simp [codePointEscape, renderHex]
  rw [htext, unquoteChar?, hcut]
  simp only [Option.map_some, ofHexDigits_toDigits, Char.ofNat_toNat]

/-- A character that is not escaped is read as itself. -/
theorem unquoteChar?_plain {c : Char} (hquote : c ≠ '"') (hslash : c ≠ '\\') (rest : List Char) :
    unquoteChar? (c :: rest) = some (c, rest) := by
  rw [unquoteChar?.eq_def]
  split
  next heq => exact absurd (List.cons.inj heq).1 hslash
  next heq => exact absurd (List.cons.inj heq).1 hslash
  next heq =>
    obtain ⟨rfl, rfl⟩ := List.cons.inj heq
    rw [if_neg hquote]
  next heq => cases heq

/-- What is written for a character is read as that character. -/
theorem unquoteChar?_quoteChar (c : Char) (rest : List Char) :
    unquoteChar? (quoteChar '"' c ++ rest) = some (c, rest) := by
  unfold quoteChar
  split
  next heq => rw [heq]; rfl
  next hquote =>
    split
    -- The character is not escaped by name: it has its code point written, or stands for itself.
    case h_6 =>
      split
      next => exact unquoteChar?_codePointEscape c rest
      next => exact unquoteChar?_plain hquote (by assumption) rest
    all_goals rfl

/-- Two characters can be told apart by what is written for them, whatever stands behind it. -/
theorem quoteChar_cancel {c d : Char} {cs ds : List Char}
    (h : quoteChar '"' c ++ cs = quoteChar '"' d ++ ds) : c = d ∧ cs = ds := by
  have hread := unquoteChar?_quoteChar c cs
  rw [h, unquoteChar?_quoteChar, Option.some.injEq, Prod.mk.injEq] at hread
  exact ⟨hread.1.symm, hread.2.symm⟩

/-- What is written for a character does not start with a quote. -/
theorem quoteChar_append_ne (c : Char) (cs ds : List Char) :
    quoteChar '"' c ++ cs ≠ '"' :: ds := by
  intro h
  have hread := unquoteChar?_quoteChar c cs
  rw [h] at hread
  cases hread

/-! ## Texts -/

variable {cs ds xs ys : List Char}

theorem quoteChars_cancel (h : quoteChars cs ++ '"' :: xs = quoteChars ds ++ '"' :: ys) :
    cs = ds ∧ xs = ys := by
  induction cs generalizing ds with
  | nil =>
    cases ds with
    | nil => exact ⟨rfl, List.tail_eq_of_cons_eq h⟩
    | cons d ds =>
      rw [quoteChars, quoteChars, List.flatMap_cons, List.append_assoc] at h
      exact absurd h.symm (quoteChar_append_ne d _ _)
  | cons c cs ih =>
    cases ds with
    | nil =>
      rw [quoteChars, quoteChars, List.flatMap_cons, List.append_assoc] at h
      exact absurd h (quoteChar_append_ne c _ _)
    | cons d ds =>
      rw [quoteChars, quoteChars, List.flatMap_cons, List.flatMap_cons, List.append_assoc,
        List.append_assoc] at h
      obtain ⟨rfl, hrest⟩ := quoteChar_cancel h
      obtain ⟨rfl, rfl⟩ := ih hrest
      exact ⟨rfl, rfl⟩

theorem toList_quoted_append (s : String) (cs : List Char) :
    (quoted s).toList ++ cs = '"' :: (quoteChars s.toList ++ '"' :: cs) := by
  simp [quoted]

/-- Two quoted texts can be told apart, whatever stands behind them. -/
theorem quoted_cancel {s t : String} (h : (quoted s).toList ++ xs = (quoted t).toList ++ ys) :
    s = t ∧ xs = ys := by
  rw [toList_quoted_append, toList_quoted_append] at h
  obtain ⟨htext, hrest⟩ := quoteChars_cancel (List.tail_eq_of_cons_eq h)
  exact ⟨String.toList_inj.1 htext, hrest⟩

/-! ## Lists -/

/-- The entries behind a first one, up to the closing bracket. -/
def quotedBehind : List String → List Char
  | [] => [']']
  | s :: texts => ',' :: ' ' :: ((quoted s).toList ++ quotedBehind texts)

theorem toList_joined_quoted (s : String) (texts : List String) :
    (joined ", " ((s :: texts).map quoted)).toList ++ [']'] =
      (quoted s).toList ++ quotedBehind texts := by
  induction texts generalizing s with
  | nil => rfl
  | cons t texts ih =>
    have hjoined : joined ", " ((s :: t :: texts).map quoted) =
        quoted s ++ ", " ++ joined ", " ((t :: texts).map quoted) := rfl
    have hsep : ", ".toList = [',', ' '] := by decide
    rw [hjoined, String.toList_append, String.toList_append, List.append_assoc, List.append_assoc,
      ih, hsep]
    simp only [quotedBehind, List.cons_append, List.nil_append]

theorem toList_quotedList_nil : (quotedList []).toList = ['[', ']'] := rfl

theorem toList_quotedList_cons (s : String) (texts : List String) :
    (quotedList (s :: texts)).toList = '[' :: ((quoted s).toList ++ quotedBehind texts) := by
  rw [quotedList, String.toList_append, String.toList_append, List.append_assoc,
    ← toList_joined_quoted]
  rfl

theorem quotedBehind_injective {texts texts' : List String}
    (h : quotedBehind texts = quotedBehind texts') : texts = texts' := by
  induction texts generalizing texts' with
  | nil =>
    cases texts' with
    | nil => rfl
    | cons t texts' => cases h
  | cons s texts ih =>
    cases texts' with
    | nil => cases h
    | cons t texts' =>
      have htail := List.tail_eq_of_cons_eq (List.tail_eq_of_cons_eq h)
      obtain ⟨rfl, hrest⟩ := quoted_cancel htail
      rw [ih hrest]

/-- **A list of texts can be told from how it is written.** -/
theorem quotedList_injective {texts texts' : List String}
    (h : quotedList texts = quotedList texts') : texts = texts' := by
  have hlist : (quotedList texts).toList = (quotedList texts').toList := congrArg String.toList h
  cases texts with
  | nil =>
    cases texts' with
    | nil => rfl
    | cons t texts' =>
      rw [toList_quotedList_nil, toList_quotedList_cons, toList_quoted_append] at hlist
      cases hlist
  | cons s texts =>
    cases texts' with
    | nil =>
      rw [toList_quotedList_nil, toList_quotedList_cons, toList_quoted_append] at hlist
      cases hlist
    | cons t texts' =>
      rw [toList_quotedList_cons, toList_quotedList_cons] at hlist
      obtain ⟨rfl, hrest⟩ := quoted_cancel (List.tail_eq_of_cons_eq hlist)
      rw [quotedBehind_injective hrest]

/-! ## Controls -/

/-- A character that is no control of ASCII, so that it leaves a text on its line. -/
def Shown (c : Char) : Prop := 0x20 ≤ c.toNat

instance (c : Char) : Decidable (Shown c) := inferInstanceAs (Decidable (0x20 ≤ c.toNat))

theorem needsCodePoint_of_not_shown {c : Char} (h : ¬Shown c) : needsCodePoint c = true := by
  have hall : ∀ n < 0x20, needsCodePoint (Char.ofNat n) = true := by decide
  have hcode := hall c.toNat (Nat.lt_of_not_le h)
  rwa [Char.ofNat_toNat] at hcode

theorem shown_codePointEscape (c : Char) : ∀ d ∈ codePointEscape c, Shown d := by
  have hhex : ∀ d ∈ (renderHex c.toNat).toList, Shown d := by
    rw [renderHex, String.toList_ofList]
    exact forall_mem_hexDigits (by decide) c.toNat
  rw [codePointEscape]
  exact List.forall_mem_append.2
    ⟨List.forall_mem_append.2 ⟨by simp [Shown], hhex⟩, by simp [Shown]⟩

theorem shown_quoteChar {mark : Char} (hmark : Shown mark) (c : Char) :
    ∀ d ∈ quoteChar mark c, Shown d := by
  have hslash : Shown '\\' := by decide
  unfold quoteChar
  split
  next heq => exact List.forall_mem_cons.2 ⟨hslash, by simpa [heq] using hmark⟩
  next =>
    split
    case h_6 =>
      split
      next => exact shown_codePointEscape c
      next hcode =>
        refine List.forall_mem_singleton.2 (Decidable.byContradiction fun hnot => ?_)
        exact hcode (needsCodePoint_of_not_shown hnot)
    all_goals simp [Shown]

theorem shown_quoted (s : String) : ∀ c ∈ (quoted s).toList, Shown c := by
  have hbody : ∀ c ∈ quoteChars s.toList, Shown c := by
    intro c hc
    obtain ⟨d, -, hc⟩ := List.mem_flatMap.1 hc
    exact shown_quoteChar (by decide) d c hc
  rw [quoted, String.toList_ofList]
  exact List.forall_mem_append.2 ⟨List.forall_mem_cons.2 ⟨by decide, hbody⟩, by simp [Shown]⟩

theorem shown_quotedBehind (texts : List String) : ∀ c ∈ quotedBehind texts, Shown c := by
  induction texts with
  | nil => simp [quotedBehind, Shown]
  | cons s texts ih =>
    refine List.forall_mem_cons.2 ⟨by decide, List.forall_mem_cons.2 ⟨by decide, ?_⟩⟩
    exact List.forall_mem_append.2 ⟨shown_quoted s, ih⟩

theorem shown_quotedList (texts : List String) : ∀ c ∈ (quotedList texts).toList, Shown c := by
  cases texts with
  | nil => simp [toList_quotedList_nil, Shown]
  | cons s texts =>
    rw [toList_quotedList_cons]
    refine List.forall_mem_cons.2 ⟨by decide, ?_⟩
    exact List.forall_mem_append.2 ⟨shown_quoted s, shown_quotedBehind texts⟩

theorem ne_newline_of_shown {c : Char} (h : Shown c) : c ≠ '\n' := by
  rintro rfl
  revert h
  decide

end Abacus.Text
