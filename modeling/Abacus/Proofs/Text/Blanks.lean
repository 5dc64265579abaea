import Abacus.Proofs.Text.Digits

/-!
# Trimmed and divided texts

What the cuts of a text leave, said without the cuts. Trimming takes away blanks and nothing else,
and what it leaves neither starts nor ends with a blank (`trimmed_trim`). The cut at a separator
divides a text at the first one (`cut_eq_some_iff`), and the pieces between separators are those on
both sides of any one of them (`pieces_append_cons`).
-/

namespace Abacus.Text

/-- What is left of a text without the blanks at both of its ends. -/
structure Trimmed (cs t : List Char) : Prop where
  blanks : ∃ before after, cs = before ++ (t ++ after) ∧
    (∀ c ∈ before, isBlank c = true) ∧ ∀ c ∈ after, isBlank c = true
  head : ∀ c ∈ t.head?, isBlank c = false
  last : ∀ c ∈ t.getLast?, isBlank c = false

theorem trimmed_self {cs : List Char} (hcs : ∀ c ∈ cs, isBlank c = false) : Trimmed cs cs where
  blanks := ⟨[], [], by simp, by simp, by simp⟩
  head c hc := hcs c (List.mem_of_head? hc)
  last c hc := hcs c (List.mem_of_getLast? hc)

theorem trim_of_trimmed {cs t : List Char} (h : Trimmed cs t) : trim cs = t := by
  obtain ⟨before, after, rfl, hbefore, hafter⟩ := h.blanks
  cases t with
  | nil =>
    have hall : ∀ c ∈ before ++ ([] ++ after), isBlank c = true := by
      intro c hc
      rcases List.mem_append.1 hc with hc | hc
      · exact hbefore c hc
      · exact hafter c hc
    have hstart : trimStart (before ++ ([] ++ after)) = [] := List.dropWhile_eq_nil_iff.2 hall
    rw [trim, hstart]
    rfl
  | cons c t =>
    have hstart : trimStart (before ++ (c :: t ++ after)) = c :: t ++ after :=
      dropWhile_append_stop hbefore h.head
    have hend : (after.reverse ++ (c :: t).reverse).dropWhile isBlank = (c :: t).reverse := by
      refine dropWhile_append_stop (fun d hd => hafter d (List.mem_reverse.1 hd)) ?_
      rw [List.head?_reverse]
      exact h.last
    rw [trim, hstart, trimEnd, List.reverse_append, hend, List.reverse_reverse]

theorem isBlank_of_head_dropWhile {cs : List Char} :
    ∀ c ∈ (cs.dropWhile isBlank).head?, isBlank c = false := by
  intro c hc
  have hnot := List.head?_dropWhile_not isBlank cs
  rw [show (cs.dropWhile isBlank).head? = some c from hc] at hnot
  exact hnot

theorem trimmed_trim (cs : List Char) : Trimmed cs (trim cs) := by
  have hlast := @isBlank_of_head_dropWhile (trimStart cs).reverse
  have hstart : cs.takeWhile isBlank ++ trimStart cs = cs := List.takeWhile_append_dropWhile
  have hend : trim cs ++ ((trimStart cs).reverse.takeWhile isBlank).reverse = trimStart cs := by
    rw [trim, trimEnd, ← List.reverse_append, List.takeWhile_append_dropWhile,
      List.reverse_reverse]
  refine ⟨⟨cs.takeWhile isBlank, ((trimStart cs).reverse.takeWhile isBlank).reverse, ?_, ?_, ?_⟩,
    ?_, ?_⟩
  · rw [hend, hstart]
  · exact List.all_eq_true.1 List.all_takeWhile
  · exact fun c hc => List.all_eq_true.1 List.all_takeWhile c (List.mem_reverse.1 hc)
  · intro c hc
    -- What is left starts with what stood behind the leading blanks.
    have hhead : (trimStart cs).head? = some c := by
      rw [← hend, List.head?_append, show (trim cs).head? = some c from hc]
      rfl
    exact isBlank_of_head_dropWhile c hhead
  · rw [trim, trimEnd, List.getLast?_reverse]
    exact hlast

/-- A text is cut at its first separator. -/
theorem cut_eq_some_iff {sep : Char} {cs a b : List Char} :
    cut sep cs = some (a, b) ↔ cs = a ++ sep :: b ∧ sep ∉ a := by
  refine ⟨eq_of_cut, ?_⟩
  rintro ⟨rfl, hsep⟩
  induction a with
  | nil => simp [cut]
  | cons c a ih =>
    rw [List.mem_cons, not_or] at hsep
    rw [List.cons_append, cut, if_neg (Ne.symm hsep.1), ih hsep.2]
    rfl

/-! ## Pieces -/

variable {sep : Char} {cs : List Char}

theorem pieces_ne_nil (sep : Char) (cs : List Char) : pieces sep cs ≠ [] := by
  cases cs with
  | nil => simp [pieces]
  | cons c cs =>
    rw [pieces]
    split
    · simp
    · split <;> simp

theorem pieces_of_not_mem (h : sep ∉ cs) : pieces sep cs = [cs] := by
  induction cs with
  | nil => rfl
  | cons c cs ih =>
    rw [List.mem_cons, not_or] at h
    simp [pieces, Ne.symm h.1, ih h.2]

/-- The pieces on both sides of a separator. -/
theorem pieces_append_cons (sep : Char) (as bs : List Char) :
    pieces sep (as ++ sep :: bs) = pieces sep as ++ pieces sep bs := by
  induction as with
  | nil => simp [pieces]
  | cons a as ih =>
    by_cases ha : a = sep
    · simp [pieces, ha, ih]
    · obtain ⟨p, ps, hp⟩ := List.exists_cons_of_ne_nil (pieces_ne_nil sep as)
      simp [pieces, ha, ih, hp]

/-- A piece in front of the first separator. -/
theorem pieces_append (h : sep ∉ cs) (bs : List Char) :
    pieces sep (cs ++ sep :: bs) = cs :: pieces sep bs := by
  rw [pieces_append_cons, pieces_of_not_mem h, List.singleton_append]

end Abacus.Text
