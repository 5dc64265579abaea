import Abacus.Proofs.Json.Literals

/-!
# Blanks and numbers

What the grammar of JSON admits as a blank and as a number. Whatever the writer spells is such a
number (`Spelling.Proper.numberText`). The reader takes every such number as a whole
(`literal_of_text`), though not each of them is of use: the grammar does not know how great a number
may be.
-/

namespace Abacus.Json

open Abacus.Text

/-! ## Blanks -/

/-- A text of blanks only. -/
def Blank (cs : List Char) : Prop := ∀ c ∈ cs, isSpace c = true

instance (cs : List Char) : Decidable (Blank cs) :=
  decidable_of_iff (cs.all isSpace = true) List.all_eq_true

theorem blank_nil : Blank [] := List.forall_mem_nil _

theorem skipSpace_of_blank {b : List Char} (hb : Blank b) (cs : List Char) :
    skipSpace (b ++ cs) = skipSpace cs :=
  List.dropWhile_append_of_pos hb

theorem skipSpace_of_head {c : Char} (hc : isSpace c = false) (cs : List Char) :
    skipSpace (c :: cs) = c :: cs := by
  rw [skipSpace, List.dropWhile_cons, hc]
  rfl

theorem stops_cons {c : Char} (h : c.isDigit = false ∧ c ≠ '.' ∧ c ≠ 'e' ∧ c ≠ 'E')
    (cs : List Char) : Stops (c :: cs) := by
  intro d hd
  cases hd
  exact h

/-- A blank does not continue a number. -/
theorem stops_of_blank {b rest : List Char} (hb : Blank b) (hrest : Stops rest) :
    Stops (b ++ rest) := by
  cases b with
  | nil => exact hrest
  | cons c b =>
    have hc := hb c List.mem_cons_self
    simp only [isSpace, Bool.or_eq_true, decide_eq_true_eq] at hc
    rcases hc with ((rfl | rfl) | rfl) | rfl <;> exact stops_cons (by decide) _

/-! ## Numbers -/

/-- Digits, at least one. -/
structure Numeral (cs : List Char) : Prop where
  isDigit : ∀ c ∈ cs, c.isDigit = true
  ne_nil : cs ≠ []

/-- The point and the digits behind it, if there is a point. -/
inductive FractionText : List Char → Prop
  | absent : FractionText []
  | point {ds : List Char} : Numeral ds → FractionText ('.' :: ds)

/-- The exponent, if there is one. -/
inductive ExponentText : List Char → Prop
  | absent : ExponentText []
  | power {mark : Char} {sign ds : List Char} : mark = 'e' ∨ mark = 'E' →
      sign = [] ∨ sign = ['+'] ∨ sign = ['-'] → Numeral ds → ExponentText (mark :: (sign ++ ds))

/-- A number without its sign. -/
inductive MagnitudeText : List Char → Prop
  | mk {whole fraction exponent : List Char} : Numeral whole →
      (whole.head? = some '0' → whole = ['0']) → FractionText fraction → ExponentText exponent →
      MagnitudeText (whole ++ (fraction ++ exponent))

/-- A number. -/
inductive NumberText : List Char → Prop
  | positive {cs : List Char} : MagnitudeText cs → NumberText cs
  | negative {cs : List Char} : MagnitudeText cs → NumberText ('-' :: cs)

/-- There is a point or an exponent in the text of a number. -/
def Pointed (cs : List Char) : Prop := '.' ∈ cs ∨ 'e' ∈ cs ∨ 'E' ∈ cs

/-! ## Written numbers -/

namespace Spelling

variable {s : Spelling}

theorem Proper.fractionText (h : s.Proper) : FractionText s.fractionText := by
  unfold Spelling.fractionText
  split
  next => exact .absent
  next hne => exact .point ⟨h.fraction, hne⟩

theorem Proper.exponentText (h : s.Proper) : ExponentText s.exponentText := by
  unfold Spelling.exponentText
  split
  next => exact .absent
  next negative ds he =>
    obtain ⟨hne, hds⟩ := h.exponent negative ds he
    have htext (sign : List Char) (hsign : sign = ['+'] ∨ sign = ['-']) :
        ExponentText ('e' :: (sign ++ ds)) := .power (.inl rfl) (.inr hsign) ⟨hds, hne⟩
    cases negative with
    | false => exact htext ['+'] (.inl rfl)
    | true => exact htext ['-'] (.inr rfl)

/-- What is spelled properly is a number of the grammar. -/
theorem Proper.numberText (h : s.Proper) : NumberText s.text := by
  have hmagnitude : MagnitudeText s.magnitudeText :=
    .mk ⟨h.whole, h.whole_ne_nil⟩ h.leading h.fractionText h.exponentText
  unfold text
  split
  next => exact .negative hmagnitude
  next => exact .positive hmagnitude

theorem pointed_text (h : s.fraction ≠ [] ∨ s.exponent ≠ none) : Pointed s.text := by
  have hmagnitude : Pointed s.magnitudeText := by
    rcases h with hfraction | hexponent
    · exact .inl (by simp [magnitudeText, Spelling.fractionText, hfraction])
    · obtain ⟨e, he⟩ := Option.ne_none_iff_exists'.1 hexponent
      exact .inr (.inl (by simp [magnitudeText, Spelling.exponentText, he]))
  unfold text
  split
  next =>
    exact hmagnitude.imp (List.mem_cons_of_mem _)
      (Or.imp (List.mem_cons_of_mem _) (List.mem_cons_of_mem _))
  next => exact hmagnitude

end Spelling

theorem numberText_intText (n : Int) : NumberText (intText n) :=
  Spelling.text_ofInt n ▸ (Spelling.proper_ofInt n).numberText

/-! ## Reading numbers -/

theorem exponentDigits_of_numeral {sign ds : List Char}
    (hsign : sign = [] ∨ sign = ['+'] ∨ sign = ['-']) (hds : Numeral ds) :
    ∃ e, ∀ rest, Stops rest → exponentDigits (sign ++ ds ++ rest) = some (e, rest) := by
  obtain ⟨d, ds', hvalues⟩ := List.exists_cons_of_ne_nil (mt digitValues_eq_nil.1 hds.ne_nil)
  have hrun (rest : List Char) (hrest : Stops rest) : digitRun (ds ++ rest) = (d :: ds', rest) := by
    rw [← hvalues]
    exact digitRun_append hds.isDigit fun c hc => (hrest c hc).1
  rcases hsign with rfl | rfl | rfl
  · refine ⟨(false, d :: ds'), fun rest hrest => ?_⟩
    obtain ⟨c, cs, hcs⟩ := List.exists_cons_of_ne_nil hds.ne_nil
    have hc := hds.isDigit c (hcs ▸ List.mem_cons_self)
    have hsign (s : Char) (hs : s.isDigit = false) (rest' : List Char) :
        [] ++ ds ++ rest ≠ s :: rest' := by
      intro heq
      rw [hcs] at heq
      rw [(List.cons.inj heq).1, hs] at hc
      cases hc
    rw [exponentDigits]
    · simp only [List.nil_append, hrun rest hrest]
    · exact hsign '+' rfl
    · exact hsign '-' rfl
  · refine ⟨(false, d :: ds'), fun rest hrest => ?_⟩
    simp only [List.cons_append, List.nil_append, exponentDigits, hrun rest hrest]
  · refine ⟨(true, d :: ds'), fun rest hrest => ?_⟩
    simp only [List.cons_append, List.nil_append, exponentDigits, hrun rest hrest]

theorem exponentPart_of_text {cs : List Char} (h : ExponentText cs) :
    ∃ e, ∀ rest, Stops rest → exponentPart (cs ++ rest) = some (e, rest) := by
  cases h with
  | absent => exact ⟨none, fun rest hrest => exponentPart_of_head fun c hc => (hrest c hc).2.2⟩
  | @power mark sign ds hmark hsign hds =>
    obtain ⟨e, hdigits⟩ := exponentDigits_of_numeral hsign hds
    refine ⟨some e, fun rest hrest => ?_⟩
    have hread := hdigits rest hrest
    rcases hmark with rfl | rfl <;>
      simp only [List.cons_append, exponentPart, hread, Option.map_some]

theorem head_exponentText {cs rest : List Char} (h : ExponentText cs) (hrest : Stops rest) :
    ∀ c ∈ (cs ++ rest).head?, c.isDigit = false ∧ c ≠ '.' := by
  intro c hc
  cases h with
  | absent => exact ⟨(hrest c hc).1, (hrest c hc).2.1⟩
  | power hmark =>
    cases hc
    rcases hmark with rfl | rfl <;> exact ⟨rfl, by decide⟩

theorem fractionPart_of_text {cs : List Char} (h : FractionText cs) :
    ∃ ds, ∀ rest, (∀ c ∈ rest.head?, c.isDigit = false ∧ c ≠ '.') →
      fractionPart (cs ++ rest) = some (ds, rest) := by
  cases h with
  | absent => exact ⟨[], fun rest hrest => fractionPart_of_head fun c hc => (hrest c hc).2⟩
  | @point ds hds =>
    exact ⟨digitValues ds, fun rest hrest =>
      fractionPart_append hds.isDigit hds.ne_nil fun c hc => (hrest c hc).1⟩

theorem head_fractionText {cs rest : List Char} (h : FractionText cs)
    (hrest : ∀ c ∈ rest.head?, c.isDigit = false) :
    ∀ c ∈ (cs ++ rest).head?, c.isDigit = false := by
  cases h with
  | absent => exact hrest
  | point =>
    intro c hc
    cases hc
    rfl

theorem unsignedLiteral_of_text {cs : List Char} (h : MagnitudeText cs) (negative : Bool) :
    ∃ l, ∀ rest, Stops rest → unsignedLiteral negative (cs ++ rest) = some (l, rest) := by
  obtain @⟨whole, fraction, exponent, hwhole, hleading, hfraction, hexponent⟩ := h
  obtain ⟨ds, hds⟩ := fractionPart_of_text hfraction
  obtain ⟨e, he⟩ := exponentPart_of_text hexponent
  refine ⟨⟨negative, digitValues whole, ds, e⟩, fun rest hrest => ?_⟩
  have hhead := head_exponentText hexponent hrest
  have hread := wholePart_append hwhole.isDigit hwhole.ne_nil hleading
    (head_fractionText hfraction fun c hc => (hhead c hc).1)
  simp only [unsignedLiteral, List.append_assoc, hread, hds _ hhead, he rest hrest,
    Option.bind_eq_bind, Option.bind_some]
  rfl

theorem head_magnitudeText {cs : List Char} (h : MagnitudeText cs) :
    ∃ c cs', cs = c :: cs' ∧ c.isDigit = true := by
  obtain @⟨whole, fraction, exponent, hwhole, -, -, -⟩ := h
  obtain ⟨c, ds, rfl⟩ := List.exists_cons_of_ne_nil hwhole.ne_nil
  exact ⟨c, ds ++ (fraction ++ exponent), rfl, hwhole.isDigit c List.mem_cons_self⟩

theorem head_numberText {cs : List Char} (h : NumberText cs) :
    ∃ c cs', cs = c :: cs' ∧ (c = '-' ∨ c.isDigit = true) := by
  cases h with
  | negative => exact ⟨_, _, rfl, .inl rfl⟩
  | positive h =>
    obtain ⟨c, cs', hcs, hc⟩ := head_magnitudeText h
    exact ⟨c, cs', hcs, .inr hc⟩

/-- A number is read as a whole. -/
theorem literal_of_text {cs : List Char} (h : NumberText cs) :
    ∃ l, ∀ rest, Stops rest → literal (cs ++ rest) = some (l, rest) := by
  cases h with
  | negative h => exact unsignedLiteral_of_text h true
  | positive h =>
    obtain ⟨l, hl⟩ := unsignedLiteral_of_text h false
    refine ⟨l, fun rest hrest => ?_⟩
    obtain ⟨c, cs', rfl, hc⟩ := head_magnitudeText h
    rw [← hl rest hrest, literal]
    intro cs heq
    rw [(List.cons.inj heq).1] at hc
    cases hc

end Abacus.Json
