import Abacus.Decimal.Layout
import Abacus.Proofs.Decimal.Shortest
import Abacus.Proofs.Text.Integers

/-!
# Fields

The fields of a text are what stands between blanks. Any number of blanks divides a text in the same
way (`fields_append_blanks`), so padding never joins two fields or makes another.

Numbers have no blanks in them (`isBlank_renderInt64`, `Decimal.Layout.isBlank_bitsText`).
-/

namespace Abacus.Text

/-- What stands between blanks. -/
def fields (cs : List Char) : List (List Char) := (cs.splitOnP isBlank).filter (· ≠ [])

variable {bs cs : List Char}

theorem fields_append_cons {c : Char} (hc : isBlank c = true) (cs ds : List Char) :
    fields (cs ++ c :: ds) = fields cs ++ fields ds := by
  rw [fields, List.splitOnP_append_cons cs ds hc, List.filter_append]
  rfl

theorem fields_of_blanks (h : ∀ c ∈ bs, isBlank c = true) (cs : List Char) :
    fields (bs ++ cs) = fields cs := by
  induction bs with
  | nil => rfl
  | cons b bs ih =>
    obtain ⟨hb, hbs⟩ := List.forall_mem_cons.1 h
    have hfirst := fields_append_cons hb [] (bs ++ cs)
    rw [List.nil_append] at hfirst
    rw [List.cons_append, hfirst, ih hbs]
    rfl

/-- Blanks divide a text, however many they are. -/
theorem fields_append_blanks (h : ∀ c ∈ bs, isBlank c = true) (hne : bs ≠ [])
    (cs ds : List Char) : fields (cs ++ (bs ++ ds)) = fields cs ++ fields ds := by
  obtain ⟨b, bs, rfl⟩ := List.exists_cons_of_ne_nil hne
  obtain ⟨hb, hbs⟩ := List.forall_mem_cons.1 h
  rw [List.cons_append, fields_append_cons hb, fields_of_blanks hbs]

theorem fields_of_forall (h : ∀ c ∈ cs, isBlank c = false) (hne : cs ≠ []) :
    fields cs = [cs] := by
  rw [fields, List.splitOnP_eq_singleton h, List.filter_cons_of_pos (by simpa using hne)]
  rfl

/-! ## Texts without blanks -/

theorem ne_newline_of_isBlank {c : Char} (h : isBlank c = false) : c ≠ '\n' := by
  rintro rfl
  cases h

theorem isBlank_renderInt64 (n : Int64) : ∀ c ∈ (renderInt64 n).toList, isBlank c = false :=
  isBlank_of_written (written_renderInt64 n)

end Abacus.Text

namespace Abacus.Decimal

open Text (isBlank isBlank_of_isDigit)

theorem Binary.isDigit_of_mem_shortest {b : Binary} {tie : Tie} {c : Char}
    (h : c ∈ (b.shortest tie).digits) : c.isDigit = true :=
  Text.isDigit_of_mem_natDigits (significant_subset h)

namespace Layout

theorem isBlank_zeros (n : Nat) : ∀ c ∈ zeros n, isBlank c = false := by
  intro c hc
  rw [List.eq_of_mem_replicate hc]
  rfl

variable {d : Digits}

theorem isBlank_positionalText (l : Layout) (h : ∀ c ∈ d.digits, isBlank c = false) :
    ∀ c ∈ l.positionalText d, isBlank c = false := by
  unfold positionalText
  split
  next =>
    simp only [List.forall_mem_cons, List.forall_mem_append]
    exact ⟨rfl, rfl, isBlank_zeros _, h⟩
  next =>
    by_cases hlength : d.digits.length ≤ d.point.toNat
    · simp only [if_pos hlength, List.forall_mem_append]
      exact ⟨⟨h, isBlank_zeros _⟩, by split <;> simp [isBlank]⟩
    · simp only [if_neg hlength, List.forall_mem_append, List.forall_mem_cons]
      exact ⟨fun c hc => h c (List.mem_of_mem_take hc), rfl,
        fun c hc => h c (List.mem_of_mem_drop hc)⟩

theorem isBlank_scientificText (h : ∀ c ∈ d.digits, isBlank c = false) :
    ∀ c ∈ scientificText d, isBlank c = false := by
  have hexponent : ∀ c ∈ exponentText (d.point - 1), isBlank c = false := by
    simp only [exponentText, List.forall_mem_cons]
    exact ⟨rfl, by split <;> rfl, fun c hc => isBlank_of_isDigit (Text.isDigit_of_mem_natDigits hc)⟩
  refine List.forall_mem_append.2 ⟨?_, hexponent⟩
  split
  next => simp
  next c heq => rwa [heq] at h
  next c rest _ heq =>
    rw [heq] at h
    obtain ⟨hc, hrest⟩ := List.forall_mem_cons.1 h
    exact List.forall_mem_cons.2 ⟨hc, List.forall_mem_cons.2 ⟨rfl, hrest⟩⟩

theorem isBlank_magnitudeText (l : Layout) (bits : Nat) :
    ∀ c ∈ l.magnitudeText bits, isBlank c = false := by
  have hdigits : ∀ c ∈ ((Binary.ofBits bits).shortest l.tie).digits, isBlank c = false :=
    fun c hc => isBlank_of_isDigit (Binary.isDigit_of_mem_shortest hc)
  unfold magnitudeText digitsText
  split
  next => exact List.forall_mem_cons.2 ⟨rfl, by split <;> simp [isBlank]⟩
  next =>
    split
    next => exact isBlank_positionalText l hdigits
    next =>
      split
      next => exact isBlank_positionalText l hdigits
      next => exact isBlank_scientificText hdigits

/-- No blank stands in the text of a number, in whatever layout. -/
theorem isBlank_bitsText (l : Layout) (bits : Nat) : ∀ c ∈ l.bitsText bits, isBlank c = false := by
  have hbody : ∀ c ∈ if bits % 0x8000000000000000 = 0x7FF0000000000000 then ['i', 'n', 'f']
      else l.magnitudeText (bits % 0x8000000000000000), isBlank c = false := by
    split
    next => simp [isBlank]
    next => exact isBlank_magnitudeText l _
  simp only [bitsText]
  split
  next => simp [isBlank]
  next =>
    split
    next => exact List.forall_mem_cons.2 ⟨rfl, hbody⟩
    next => exact hbody

end Layout

end Abacus.Decimal
