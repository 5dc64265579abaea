import Abacus.Proofs.Text.Digits
import Abacus.Toml.Statement
import Abacus.Toml.Writer

/-!
# Strings and keys survive writing

A string is written in one of four forms, and each form has a reader of its own. This module shows
that every reader takes back what was written, whatever the string holds and whatever stands behind
its closing quotes.

The forms with three quotes are the difficult ones. Their readers look at quotes in runs: of up to
five in a row the last three close the string (`TakesRuns`). The writer sees to it that a run inside
the string never gets longer than two, so what it writes is described with the quotes that stand just
before (`BlockText`), and one induction serves both kinds of quotes (`TakesRuns.reads`).

Main results: `string?_stringText` and `simpleKey?_keyText`.
-/

namespace Abacus.Toml

/-! ## Single characters -/

theorem isControl_lt {c : Char} (h : isControl c = true) : c.toNat < 128 := by
  simp only [isControl, Bool.or_eq_true, Bool.and_eq_true, decide_eq_true_eq, beq_iff_eq] at h
  omega

/-- The four digits behind `\u` give back the code point. -/
theorem unicodeEscape_reads : ∀ n < 128, ∃ a b c d, unicodeEscape n = ['\\', 'u', a, b, c, d] ∧
    (ofHex? [a, b, c, d] >>= character?) = some (Char.ofNat n) := by
  intro n hn
  refine ⟨_, _, _, _, rfl, ?_⟩
  revert n
  decide

theorem isBasicChar_iff {c : Char} :
    isBasicChar c = true ↔ c ≠ '"' ∧ c ≠ '\\' ∧ c ≠ '\n' ∧ isControl c = false := by
  simp [isBasicChar, and_assoc]

theorem isLiteralChar_iff {c : Char} :
    isLiteralChar c = true ↔ c ≠ '\'' ∧ c ≠ '\n' ∧ isControl c = false := by
  simp [isLiteralChar, and_assoc]

/-- An escaped character starts with the backslash or is a character that shows as itself. -/
theorem head_escapeChar (c : Char) (hq : c ≠ '"') :
    ∃ d ds, escapeChar c = d :: ds ∧ d ≠ '"' ∧ d ≠ '\n' ∧ d ≠ '\r' := by
  unfold escapeChar
  split
  case h_7 =>
    split
    next => exact ⟨_, _, rfl, by decide, by decide, by decide⟩
    next => exact ⟨_, _, rfl, hq, by assumption, by assumption⟩
  all_goals exact ⟨_, _, rfl, by decide, by decide, by decide⟩

@[simp] theorem StringResult.after_some (as s rest : List Char) :
    StringResult.after as (some (s, rest)) = some (as ++ s, rest) := rfl

theorem StringResult.after_after (as bs : List Char) (r : StringResult) :
    (r.after bs).after as = r.after (as ++ bs) := by
  cases r <;> simp [StringResult.after]

/-! ## Strings on one line -/

theorem basicBody_plain {c : Char} (h : isBasicChar c = true) (rest : List Char) :
    basicBody (c :: rest) = (basicBody rest).after [c] := by
  rw [basicBody.eq_def]
  split <;> simp_all [isBasicChar]

theorem basicBody_escapeChar (c : Char) (hq : c ≠ '"') (rest : List Char) :
    basicBody (escapeChar c ++ rest) = (basicBody rest).after [c] := by
  unfold escapeChar
  split
  case h_7 =>
    split
    next hc =>
      obtain ⟨a, b, d, e, he, hr⟩ := unicodeEscape_reads c.toNat (isControl_lt hc)
      rw [he]
      simp [basicBody, hr]
    next hc =>
      have hbasic := isBasicChar_iff.2 ⟨hq, by assumption, by assumption, by simpa using hc⟩
      exact basicBody_plain hbasic rest
  all_goals simp [basicBody, escaped?]

theorem basicBody_escapedText (cs rest : List Char) :
    basicBody (escapedText cs ++ '"' :: rest) = some (cs, rest) := by
  induction cs with
  | nil => simp [escapedText, basicBody]
  | cons c cs ih =>
    have hcons : escapedText (c :: cs) =
        (if c = '"' then ['\\', '"'] else escapeChar c) ++ escapedText cs := rfl
    rw [hcons, List.append_assoc]
    split
    next hc =>
      subst hc
      simp [basicBody, escaped?, ih]
    next hc =>
      rw [basicBody_escapeChar c hc, ih]
      rfl

theorem literalBody_append {cs : List Char} (h : ∀ c ∈ cs, isLiteralChar c = true)
    (rest : List Char) : literalBody (cs ++ '\'' :: rest) = some (cs, rest) := by
  induction cs with
  | nil => simp [literalBody]
  | cons c cs ih =>
    have hc := h c List.mem_cons_self
    have hread : literalBody (c :: (cs ++ '\'' :: rest)) =
        (literalBody (cs ++ '\'' :: rest)).after [c] := by
      rw [literalBody.eq_def]
      split <;> simp_all [isLiteralChar]
    rw [List.cons_append, hread, ih fun d hd => h d (List.mem_cons_of_mem _ hd)]
    rfl

/-! ## Runs of quotes -/

/-- A run of at most five marks is seen as a whole. -/
theorem markRun_replicate (mark : Char) {n : Nat} (hn : n ≤ 5) {rest : List Char}
    (hrest : ∀ c ∈ rest.head?, c ≠ mark) :
    markRun mark (List.replicate n mark ++ rest) = (n, rest) := by
  have htake : ((List.replicate n mark ++ rest).take 5).takeWhile (· = mark) =
      List.replicate n mark := by
    rw [List.take_append, List.take_replicate, Nat.min_eq_right hn,
      List.takeWhile_append_of_pos (by simp)]
    have hstop : ((rest.take (5 - (List.replicate n mark).length)).takeWhile (· = mark)) = [] := by
      cases rest with
      | nil => simp
      | cons c cs =>
        have hc : c ≠ mark := hrest c rfl
        cases h : 5 - (List.replicate n mark).length <;> simp [hc]
    rw [hstop, List.append_nil]
  simp [markRun, htake]

/-- A reader of a string that three marks close. It takes marks in runs: of up to five in a row the
last three close the string. -/
def TakesRuns (mark : Char) (body : Nat → List Char → StringResult) : Prop :=
  ∀ {fuel : Nat} {cs rest : List Char} {n : Nat}, markRun mark (mark :: cs) = (n, rest) →
    body (fuel + 1) (mark :: cs) =
      if 3 ≤ n then some (List.replicate (n - 3) mark, rest)
      else (body fuel rest).after (List.replicate n mark)

/-- A text that stands for `cs` between three marks, of which `k` were written just before. -/
inductive BlockText (mark : Char) (body : Nat → List Char → StringResult) :
    Nat → List Char → List Char → Prop
  | nil {k : Nat} : BlockText mark body k [] []
  /-- A mark that does not close the string. -/
  | mark {k : Nat} {cs text : List Char} : k < 2 → BlockText mark body (k + 1) cs text →
      BlockText mark body k (mark :: cs) (mark :: text)
  /-- What is read as one character and does not start with a mark ends the run. -/
  | other {k : Nat} {c : Char} (d : Char) (ds : List Char) {cs text : List Char} : d ≠ mark →
      (∀ fuel rest, body (fuel + 1) (d :: ds ++ rest) = (body fuel rest).after [c]) →
      BlockText mark body 0 cs text → BlockText mark body k (c :: cs) (d :: ds ++ text)

namespace TakesRuns

variable {mark : Char} {body : Nat → List Char → StringResult} {k fuel : Nat} {rest : List Char}

theorem run (h : TakesRuns mark body) {n : Nat} (hpos : 0 < n) (hn : n ≤ 5)
    (hrest : ∀ c ∈ rest.head?, c ≠ mark) : body (fuel + 1) (List.replicate n mark ++ rest) =
      if 3 ≤ n then some (List.replicate (n - 3) mark, rest)
      else (body fuel rest).after (List.replicate n mark) := by
  have hrun := markRun_replicate mark hn hrest
  cases n with
  | zero => omega
  | succ n =>
    rw [List.replicate_succ, List.cons_append] at hrun ⊢
    exact h hrun

/-- Three more marks close the string. -/
theorem close (h : TakesRuns mark body) (hk : k ≤ 2) (hfuel : 0 < fuel)
    (hrest : ∀ c ∈ rest.head?, c ≠ mark) :
    body fuel (List.replicate k mark ++ ([mark, mark, mark] ++ rest)) =
      some (List.replicate k mark, rest) := by
  have hmarks : List.replicate k mark ++ ([mark, mark, mark] ++ rest) =
      List.replicate (k + 3) mark ++ rest := by
    rw [← List.append_assoc]
    exact congrArg (· ++ rest) (List.replicate_append_replicate (m := 3))
  cases fuel with
  | zero => omega
  | succ fuel =>
    rw [hmarks, h.run (by omega) (by omega) hrest, if_pos (by omega), Nat.add_sub_cancel]

/-- Another character is read behind the marks before it. -/
theorem step (h : TakesRuns mark body) (hk : k ≤ 2) {c d : Char} {ds : List Char} (hd : d ≠ mark)
    (hread : ∀ fuel rest, body (fuel + 1) (d :: ds ++ rest) = (body fuel rest).after [c])
    (hfuel : k + (d :: ds ++ rest).length < fuel) : ∃ fuel', rest.length < fuel' ∧
      body fuel (List.replicate k mark ++ (d :: ds ++ rest)) =
        (body fuel' rest).after (List.replicate k mark ++ [c]) := by
  simp only [List.length_append, List.length_cons] at hfuel
  cases k with
  | zero =>
    cases fuel with
    | zero => omega
    | succ fuel => exact ⟨fuel, by omega, hread fuel rest⟩
  | succ k =>
    obtain ⟨fuel, rfl⟩ : ∃ fuel', fuel = fuel' + 2 := ⟨fuel - 2, by omega⟩
    refine ⟨fuel, by omega, ?_⟩
    rw [h.run (Nat.succ_pos k) (by omega) (by simpa using hd), if_neg (by omega), hread,
      StringResult.after_after]

/-- What was written for a text is read as that text. -/
theorem reads (h : TakesRuns mark body) {cs text : List Char} (ht : BlockText mark body k cs text)
    (hk : k ≤ 2) (hrest : ∀ c ∈ rest.head?, c ≠ mark)
    (hfuel : k + (text ++ ([mark, mark, mark] ++ rest)).length < fuel) :
    body fuel (List.replicate k mark ++ (text ++ ([mark, mark, mark] ++ rest))) =
      some (List.replicate k mark ++ cs, rest) := by
  -- On what was written; a mark joins those before it, anything else starts from none.
  induction ht generalizing fuel with
  | nil =>
    rw [List.nil_append, List.append_nil]
    exact h.close hk (by omega) hrest
  | mark hlt _ ih =>
    have htail := ih hlt (by simpa [Nat.add_assoc, Nat.add_comm 1] using hfuel)
    simpa [List.replicate_succ', List.append_assoc] using htail
  | other d ds hd hread _ ih =>
    rw [List.append_assoc] at hfuel ⊢
    obtain ⟨fuel', hlt, hstep⟩ := h.step hk hd hread hfuel
    have htail := ih (Nat.zero_le 2) (by rwa [Nat.zero_add])
    rw [List.replicate_zero, List.nil_append, List.nil_append] at htail
    rw [hstep, htail, StringResult.after_some, List.append_assoc, List.singleton_append]

end TakesRuns

/-! ## Strings between three double quotes -/

theorem takesRuns_blockBasicBody : TakesRuns '"' blockBasicBody := by
  intro fuel cs rest n hrun
  rw [blockBasicBody]
  simp only [hrun]

theorem blockBasicBody_plain {c : Char} (h : isBasicChar c = true) (fuel : Nat)
    (rest : List Char) :
    blockBasicBody (fuel + 1) (c :: rest) = (blockBasicBody fuel rest).after [c] := by
  have hr : c ≠ '\r' := by
    rintro rfl
    simp [isBasicChar, isControl] at h
  rw [blockBasicBody.eq_def]
  split <;> simp_all [isBasicChar]

theorem blockBasicBody_newline (fuel : Nat) (rest : List Char) :
    blockBasicBody (fuel + 1) ('\n' :: rest) = (blockBasicBody fuel rest).after ['\n'] := by
  simp [blockBasicBody]

/-- A short escape, which no line break follows. -/
theorem blockBasicBody_escaped {e c : Char} (he : escaped? e = some c) (fuel : Nat)
    (rest : List Char) :
    blockBasicBody (fuel + 1) ('\\' :: e :: rest) = (blockBasicBody fuel rest).after [c] := by
  have hu : e ≠ 'u' := by rintro rfl; simp [escaped?] at he
  have hU : e ≠ 'U' := by rintro rfl; simp [escaped?] at he
  have hspace : isSpace e = false := by
    cases hs : isSpace e
    · rfl
    · simp only [isSpace, Bool.or_eq_true, decide_eq_true_eq] at hs
      rcases hs with rfl | rfl <;> simp [escaped?] at he
  have hn : e ≠ '\n' := by rintro rfl; simp [escaped?] at he
  have hr : e ≠ '\r' := by rintro rfl; simp [escaped?] at he
  have hjoin : lineJoin? (e :: rest) = none := by
    simp [lineJoin?, skipSpace, hspace, lineBreak?, hn, hr]
  simp [blockBasicBody, hu, hU, hjoin, he]

theorem blockBasicBody_escapeChar (c : Char) (hq : c ≠ '"') (fuel : Nat) (rest : List Char) :
    blockBasicBody (fuel + 1) (escapeChar c ++ rest) = (blockBasicBody fuel rest).after [c] := by
  unfold escapeChar
  split
  case h_7 =>
    split
    next hc =>
      obtain ⟨a, b, d, e, he, hr⟩ := unicodeEscape_reads c.toNat (isControl_lt hc)
      rw [he]
      simp [blockBasicBody, hr]
    next hc =>
      exact blockBasicBody_plain
        (isBasicChar_iff.2 ⟨hq, by assumption, by assumption, by simpa using hc⟩) fuel rest
  all_goals exact blockBasicBody_escaped rfl fuel rest

theorem escapedBlockText_of_ne {c : Char} (hq : c ≠ '"') (hn : c ≠ '\n') (run : Nat)
    (cs : List Char) : escapedBlockText run (c :: cs) = escapeChar c ++ escapedBlockText 0 cs := by
  simp [escapedBlockText]

/-- An escaped text stands for the text that was escaped. -/
theorem blockText_escapedBlockText (cs : List Char) {k : Nat} (hk : k ≤ 2) :
    BlockText '"' blockBasicBody k cs (escapedBlockText k cs) := by
  induction cs generalizing k with
  | nil => exact .nil
  | cons c cs ih =>
    have hrest := ih (Nat.zero_le 2)
    by_cases hc : c = '"'
    · subst hc
      rw [escapedBlockText]
      split
      next hfull =>
        -- The run is full, so the quote is escaped and a new run begins.
        exact .other '\\' ['"'] (by decide) (blockBasicBody_escaped rfl) hrest
      next hfull => exact .mark (by omega) (ih (by omega))
    · by_cases hn : c = '\n'
      · subst hn
        exact .other '\n' [] (by decide) blockBasicBody_newline hrest
      · obtain ⟨d, ds, hd, hdq, -, -⟩ := head_escapeChar c hc
        have hread := blockBasicBody_escapeChar c hc
        rw [escapedBlockText_of_ne hc hn, hd]
        rw [hd] at hread
        exact .other d ds hdq hread hrest

/-! ## Strings between three single quotes -/

theorem takesRuns_blockLiteralBody : TakesRuns '\'' blockLiteralBody := by
  intro fuel cs rest n hrun
  rw [blockLiteralBody]
  simp only [hrun]

theorem blockLiteralBody_plain {c : Char} (h : isLiteralChar c = true) (fuel : Nat)
    (rest : List Char) :
    blockLiteralBody (fuel + 1) (c :: rest) = (blockLiteralBody fuel rest).after [c] := by
  have hr : c ≠ '\r' := by
    rintro rfl
    simp [isLiteralChar, isControl] at h
  rw [blockLiteralBody.eq_def]
  split <;> simp_all [isLiteralChar]

theorem blockLiteralBody_newline (fuel : Nat) (rest : List Char) :
    blockLiteralBody (fuel + 1) ('\n' :: rest) = (blockLiteralBody fuel rest).after ['\n'] := by
  simp [blockLiteralBody]

/-- The characters of a text that can stand between three single quotes, of which `k` were written
just before. -/
def FitsBlock : Nat → List Char → Prop
  | _, [] => True
  | k, c :: cs =>
    if c = '\'' then k < 2 ∧ FitsBlock (k + 1) cs
    else (c = '\n' ∨ isLiteralChar c = true) ∧ FitsBlock 0 cs

/-- Such a text stands for itself. -/
theorem FitsBlock.blockText {k : Nat} {cs : List Char} (h : FitsBlock k cs) :
    BlockText '\'' blockLiteralBody k cs cs := by
  induction cs generalizing k with
  | nil => exact .nil
  | cons c cs ih =>
    rw [FitsBlock] at h
    by_cases hc : c = '\''
    · subst hc
      rw [if_pos rfl] at h
      exact .mark h.1 (ih h.2)
    · rw [if_neg hc] at h
      obtain ⟨rfl | hchar, hrest⟩ := h
      · exact .other '\n' [] hc blockLiteralBody_newline (ih hrest)
      · exact .other c [] hc (blockLiteralBody_plain hchar) (ih hrest)

/-- The longest run never falls below what it was. -/
theorem le_longestRun_fold (mark : Char) (cs : List Char) (run best : Nat) :
    best ≤ (cs.foldl (fun (p : Nat × Nat) c =>
      if c = mark then (p.1 + 1, max p.2 (p.1 + 1)) else (0, p.2)) (run, best)).2 := by
  induction cs generalizing run best with
  | nil => simp
  | cons c cs ih =>
    rw [List.foldl_cons]
    split
    next => exact Nat.le_trans (Nat.le_max_left _ _) (ih _ _)
    next => exact ih _ _

theorem fitsBlock_of_longestRun {cs : List Char} (hrun : longestRun '\'' cs ≤ 2)
    (hcs : ∀ c ∈ cs, isControl c = false) : FitsBlock 0 cs := by
  suffices h : ∀ k best, (cs.foldl (fun (p : Nat × Nat) c =>
      if c = '\'' then (p.1 + 1, max p.2 (p.1 + 1)) else (0, p.2)) (k, best)).2 ≤ 2 →
      FitsBlock k cs from h 0 0 hrun
  clear hrun
  induction cs with
  | nil => exact fun _ _ _ => trivial
  | cons c cs ih =>
    intro k best h
    have ih := ih fun d hd => hcs d (List.mem_cons_of_mem _ hd)
    rw [List.foldl_cons] at h
    rw [FitsBlock]
    by_cases hc : c = '\''
    · rw [if_pos hc] at h ⊢
      refine ⟨?_, ih _ _ h⟩
      have hle := Nat.le_trans (le_longestRun_fold '\'' cs _ _) h
      omega
    · rw [if_neg hc] at h ⊢
      refine ⟨?_, ih _ _ h⟩
      by_cases hn : c = '\n'
      · exact .inl hn
      · exact .inr (isLiteralChar_iff.2 ⟨hc, hn, hcs c List.mem_cons_self⟩)

/-! ## Any string -/

theorem afterOpening_newline (cs : List Char) : afterOpening ('\n' :: cs) = cs := rfl

theorem afterOpening_of_head {c : Char} (hn : c ≠ '\n') (hr : c ≠ '\r') (cs : List Char) :
    afterOpening (c :: cs) = c :: cs := by
  simp [afterOpening, lineBreak?, hn, hr]

/-- The line break behind the opening quotes is the one that the writer put there. -/
theorem afterOpening_block {mark : Char} (hm : mark ≠ '\n' ∧ mark ≠ '\r') (lines : Bool)
    (body : List Char) (hbody : lines = false → ∀ c ∈ body.head?, c ≠ '\n' ∧ c ≠ '\r')
    (rest : List Char) :
    afterOpening ((if lines then ['\n'] else []) ++ body ++ [mark, mark, mark] ++ rest) =
      body ++ [mark, mark, mark] ++ rest := by
  cases lines with
  | true => exact afterOpening_newline _
  | false =>
    cases body with
    | nil => exact afterOpening_of_head hm.1 hm.2 _
    | cons c body =>
      obtain ⟨hn, hr⟩ := hbody rfl c rfl
      exact afterOpening_of_head hn hr _

/-- A text between three marks is read from behind the opening ones. -/
theorem TakesRuns.reads_block {mark : Char} {body : Nat → List Char → StringResult}
    (h : TakesRuns mark body) (hm : mark ≠ '\n' ∧ mark ≠ '\r') {cs text : List Char}
    (ht : BlockText mark body 0 cs text) (lines : Bool)
    (hhead : lines = false → ∀ c ∈ text.head?, c ≠ '\n' ∧ c ≠ '\r') {rest : List Char}
    (hrest : ∀ c ∈ rest.head?, c ≠ mark) :
    body (((if lines then ['\n'] else []) ++ text ++ [mark, mark, mark] ++ rest).length + 1)
        (afterOpening ((if lines then ['\n'] else []) ++ text ++ [mark, mark, mark] ++ rest)) =
      some (cs, rest) := by
  have hfuel : 0 + (text ++ ([mark, mark, mark] ++ rest)).length <
      ((if lines then ['\n'] else []) ++ text ++ [mark, mark, mark] ++ rest).length + 1 := by
    simp only [List.length_append]
    omega
  rw [afterOpening_block hm lines text hhead rest, List.append_assoc text]
  exact h.reads ht (Nat.zero_le 2) hrest hfuel

/-- The first character of an escaped text of one line. -/
theorem head_escapedBlockText {cs : List Char} (hn : '\n' ∉ cs) :
    ∀ c ∈ (escapedBlockText 0 cs).head?, c ≠ '\n' ∧ c ≠ '\r' := by
  cases cs with
  | nil => simp [escapedBlockText]
  | cons c cs =>
    by_cases hq : c = '"'
    · subst hq
      simp [escapedBlockText]
    · have hcn : c ≠ '\n' := fun h => hn (h ▸ List.mem_cons_self)
      obtain ⟨d, ds, hd, -, hdn, hdr⟩ := head_escapeChar c hq
      intro e he
      rw [escapedBlockText_of_ne hq hcn, hd] at he
      simp only [List.cons_append, List.head?_cons, Option.mem_def, Option.some.injEq] at he
      subst he
      exact ⟨hdn, hdr⟩

theorem string?_basic {cs : List Char} {rest : List Char} (hrest : ∀ c ∈ rest.head?, c ≠ '"') :
    string? ('"' :: escapedText cs ++ ['"'] ++ rest) = some (String.ofList cs, rest) := by
  have hbody := basicBody_escapedText cs rest
  cases cs with
  | nil =>
    cases rest with
    | nil => rfl
    | cons c rest =>
      have hc : c ≠ '"' := hrest c rfl
      simp [escapedText, string?, hc, basicBody]
  | cons c cs =>
    -- An escaped text does not start with a quote, so there are no three quotes.
    obtain ⟨d, ds, hd, hdq⟩ : ∃ d ds, escapedText (c :: cs) = d :: ds ∧ d ≠ '"' := by
      by_cases hc : c = '"'
      · exact ⟨_, _, by rw [hc]; rfl, by decide⟩
      · obtain ⟨d, ds, hd, hdq, -, -⟩ := head_escapeChar c hc
        exact ⟨d, ds ++ escapedText cs, by simp [escapedText, hc, hd], hdq⟩
    rw [hd] at hbody ⊢
    simp only [List.cons_append] at hbody
    simp [string?, hdq, hbody]

theorem string?_literal {cs : List Char} (hne : cs ≠ []) (hcs : ∀ c ∈ cs, isLiteralChar c = true)
    (rest : List Char) :
    string? ('\'' :: cs ++ ['\''] ++ rest) = some (String.ofList cs, rest) := by
  have hbody := literalBody_append hcs rest
  cases cs with
  | nil => exact absurd rfl hne
  | cons c cs =>
    have hc : c ≠ '\'' := (isLiteralChar_iff.1 (hcs c List.mem_cons_self)).1
    simp only [List.cons_append] at hbody
    simp [string?, hc, hbody]

theorem string?_blockBasic (cs : List Char) {rest : List Char}
    (hrest : ∀ c ∈ rest.head?, c ≠ '"') :
    string? (block '"' (cs.contains '\n') (escapedBlockText 0 cs) ++ rest) =
      some (String.ofList cs, rest) := by
  have hbody := takesRuns_blockBasicBody.reads_block (by decide)
    (blockText_escapedBlockText cs (Nat.zero_le 2)) (cs.contains '\n')
    (fun h => head_escapedBlockText (by simpa using h)) hrest
  simp only [List.cons_append, List.nil_append, List.append_assoc] at hbody
  simp only [block, List.cons_append, List.nil_append, List.append_assoc, string?, hbody,
    Option.map_some]

theorem string?_blockLiteral {cs : List Char} (hcontrol : ∀ c ∈ cs, isControl c = false)
    (hrun : longestRun '\'' cs ≤ 2) {rest : List Char} (hrest : ∀ c ∈ rest.head?, c ≠ '\'') :
    string? (block '\'' (cs.contains '\n') cs ++ rest) = some (String.ofList cs, rest) := by
  have hhead : cs.contains '\n' = false → ∀ c ∈ cs.head?, c ≠ '\n' ∧ c ≠ '\r' := by
    intro hn c hc
    have hmem : c ∈ cs := List.mem_of_mem_head? hc
    refine ⟨?_, ?_⟩ <;> rintro rfl
    · simp [hmem] at hn
    · exact absurd (hcontrol _ hmem) (by decide)
  have hbody := takesRuns_blockLiteralBody.reads_block (by decide)
    (fitsBlock_of_longestRun hrun hcontrol).blockText (cs.contains '\n') hhead hrest
  simp only [List.cons_append, List.nil_append, List.append_assoc] at hbody
  simp only [block, List.cons_append, List.nil_append, List.append_assoc, string?, hbody,
    Option.map_some]

/-- What the choice of the literal form tells about a string. -/
theorem literal_of_stringForm {cs : List Char} (h : stringForm cs = .literal) :
    cs ≠ [] ∧ ∀ c ∈ cs, isLiteralChar c = true := by
  simp only [stringForm] at h
  split at h
  next => cases h
  next hbasic =>
    split at h
    next hlit =>
      simp only [Bool.and_eq_true, Bool.not_eq_true', List.any_eq_false, List.contains_eq_mem,
        decide_eq_false_iff_not] at hlit
      refine ⟨fun hnil => by simp [hnil] at hbasic, fun c hc => ?_⟩
      refine isLiteralChar_iff.2 ⟨?_, ?_, by simpa using hlit.1.1 c hc⟩ <;> rintro rfl
      · exact hlit.1.2 hc
      · exact hlit.2 hc
    next =>
      split at h
      next => cases h
      next =>
        split at h
        next => cases h
        next => split at h <;> cases h

/-- What the choice of the literal form of several lines tells about a string. -/
theorem blockLiteral_of_stringForm {cs : List Char} (h : stringForm cs = .blockLiteral) :
    (∀ c ∈ cs, isControl c = false) ∧ longestRun '\'' cs ≤ 2 := by
  simp only [stringForm] at h
  split at h
  next => cases h
  next =>
    split at h
    next => cases h
    next =>
      split at h
      next => cases h
      next =>
        split at h
        next hblock =>
          simp only [Bool.and_eq_true, Bool.not_eq_true', List.any_eq_false,
            decide_eq_true_eq] at hblock
          exact ⟨fun c hc => by simpa using hblock.1 c hc, hblock.2⟩
        next => split at h <;> cases h

/-- **Every string is read back**, whatever it holds. -/
theorem string?_stringText (s : String) {rest : List Char}
    (hrest : ∀ c ∈ rest.head?, c ≠ '"' ∧ c ≠ '\'') :
    string? (stringText s ++ rest) = some (s, rest) := by
  have hdouble : ∀ c ∈ rest.head?, c ≠ '"' := fun c hc => (hrest c hc).1
  have hsingle : ∀ c ∈ rest.head?, c ≠ '\'' := fun c hc => (hrest c hc).2
  have hs : String.ofList s.toList = s := String.ofList_toList
  simp only [stringText]
  cases hform : stringForm s.toList with
  | basic => exact (string?_basic hdouble).trans (by rw [hs])
  | blockBasic => exact (string?_blockBasic _ hdouble).trans (by rw [hs])
  | literal =>
    obtain ⟨hne, hcs⟩ := literal_of_stringForm hform
    exact (string?_literal hne hcs rest).trans (by rw [hs])
  | blockLiteral =>
    obtain ⟨hcontrol, hrun⟩ := blockLiteral_of_stringForm hform
    exact (string?_blockLiteral hcontrol hrun hsingle).trans (by rw [hs])

/-! ## Keys -/

/-- A key does not start with a blank, a bracket or a point. -/
theorem head_keyText (key : String) :
    ∃ c cs, keyText key = c :: cs ∧ (c = '"' ∨ c = '\'' ∨ isBareKeyChar c = true) := by
  simp only [keyText]
  split
  next h =>
    simp only [Bool.and_eq_true, Bool.not_eq_true', List.isEmpty_eq_false_iff,
      List.all_eq_true] at h
    obtain ⟨c, cs, hcs⟩ := List.exists_cons_of_ne_nil h.1
    exact ⟨c, cs, hcs, .inr (.inr (h.2 c (by simp [hcs])))⟩
  next =>
    split
    next => exact ⟨_, _, rfl, .inl rfl⟩
    next =>
      split
      next => exact ⟨_, _, rfl, .inr (.inl rfl)⟩
      next => exact ⟨_, _, rfl, .inl rfl⟩

/-- **Every key is read back**, whatever it holds. -/
theorem simpleKey?_keyText (key : String) {rest : List Char}
    (hrest : ∀ c ∈ rest.head?, isBareKeyChar c = false) :
    simpleKey? (keyText key ++ rest) = some (key, rest) := by
  have hkey : String.ofList key.toList = key := String.ofList_toList
  have hquoted : simpleKey? (('"' :: escapedText key.toList ++ ['"']) ++ rest) =
      some (key, rest) := by
    have hbody := basicBody_escapedText key.toList rest
    simp [simpleKey?, hbody, hkey]
  simp only [keyText]
  split
  next h =>
    simp only [Bool.and_eq_true, Bool.not_eq_true', List.isEmpty_eq_false_iff,
      List.all_eq_true] at h
    have htake := Text.takeWhile_append_stop h.2 hrest
    have hdrop := Text.dropWhile_append_stop h.2 hrest
    obtain ⟨c, cs, hcs⟩ := List.exists_cons_of_ne_nil h.1
    have hc : isBareKeyChar c = true := h.2 c (by simp [hcs])
    have hq : c ≠ '"' := by rintro rfl; exact absurd hc (by decide)
    have hs : c ≠ '\'' := by rintro rfl; exact absurd hc (by decide)
    rw [hcs] at htake hdrop hkey ⊢
    simp only [List.cons_append] at htake hdrop ⊢
    rw [simpleKey?, htake]
    · simp [hdrop, hkey]
    · exact fun _ he => hq (List.cons.inj he).1
    · exact fun _ he => hs (List.cons.inj he).1
  next =>
    split
    next => exact hquoted
    next =>
      split
      next h =>
        have hcs : ∀ c ∈ key.toList, isLiteralChar c = true := by
          intro c hc
          simp only [Bool.and_eq_true, Bool.not_eq_true', Bool.or_eq_false_iff, List.any_eq_false,
            List.contains_eq_mem, decide_eq_false_iff_not] at h
          refine isLiteralChar_iff.2 ⟨?_, ?_, by simpa using h.1.1 c hc⟩ <;> rintro rfl
          · exact h.2 hc
          · exact h.1.2 hc
        have hbody := literalBody_append hcs rest
        simp [simpleKey?, hbody, hkey]
      next => exact hquoted

end Abacus.Toml
