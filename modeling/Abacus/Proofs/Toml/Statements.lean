import Abacus.Proofs.Text.Digits
import Abacus.Proofs.Toml.Strings

/-!
# Written documents are read back as statements

The text of a document is read as the statements that its sections stand for: a header for every
section with a place, and an entry for every line. The keys and strings may hold anything; what has
to be small enough is the number of keys in a place, and the integers have to fit into 64 bits.

Main result: `statements?_render`.
-/

namespace Abacus.Toml

open Abacus.Text

/-! ## Integers -/

theorem isDecimal_of_isDigit {c : Char} (h : c.isDigit = true) : isDecimal c = true := by
  simp [isDecimal, digit?_of_isDigit h]

theorem digitGroup?_digits {ds : List Char} (hds : ∀ c ∈ ds, c.isDigit = true) (after : Bool)
    (hafter : after = true ∨ ds ≠ []) (rest : List Char) :
    digitGroup? isDecimal after (ds ++ '\n' :: rest) = some (ds, '\n' :: rest) := by
  induction ds generalizing after with
  | nil =>
    rcases hafter with rfl | hne
    · rw [List.nil_append, digitGroup?.eq_def]
      simp [show isDecimal '\n' = false from by decide]
    · exact absurd rfl hne
  | cons d ds ih =>
    have hd := isDecimal_of_isDigit (hds d List.mem_cons_self)
    have htail := ih (fun c hc => hds c (List.mem_cons_of_mem _ hc)) true (.inl rfl)
    rw [List.cons_append, digitGroup?.eq_def]
    simp [hd, htail]

theorem ofBase_ten {ds : List Char} (hds : ∀ c ∈ ds, c.isDigit = true) :
    ofBase 10 ds = Nat.ofDigitChars 10 ds 0 := by
  suffices h : ∀ acc, ds.foldl (fun n c => 10 * n + (hexValue? c).getD 0) acc =
      Nat.ofDigitChars 10 ds acc from h 0
  induction ds with
  | nil => exact fun acc => rfl
  | cons d ds ih =>
    intro acc
    have hd := hexValue?_of_isDigit (hds d List.mem_cons_self)
    rw [List.foldl_cons, Nat.ofDigitChars_cons, hd]
    exact ih (fun c hc => hds c (List.mem_cons_of_mem _ hc)) _

theorem wholeDigits?_natDigits (m : Nat) (rest : List Char) :
    wholeDigits? (natDigits m ++ '\n' :: rest) = some (natDigits m, '\n' :: rest) := by
  have hgroup := digitGroup?_digits (fun c hc => isDigit_of_mem_natDigits (n := m) hc)
    false (.inr (natDigits_ne_nil m)) rest
  cases m with
  | zero => rfl
  | succ m =>
    obtain ⟨d, ds, hds⟩ := List.exists_cons_of_ne_nil (natDigits_ne_nil (m + 1))
    have hd : d ≠ '0' := head_natDigits (Nat.succ_pos m) d (by simp [hds])
    rw [hds] at hgroup ⊢
    rw [List.cons_append] at hgroup ⊢
    rw [wholeDigits?, hgroup]
    exact fun _ he => hd (List.cons.inj he).1

/-- The digits of a magnitude are neither a word for a special number nor followed by the point or
exponent of a float. -/
theorem number?_eq_integer? {cs : List Char} {negative : Bool} {m : Nat} {rest : List Char}
    (hsign : sign cs = (negative, natDigits m ++ '\n' :: rest)) : number? cs = integer? cs := by
  have hspecial : specialFloat? negative (natDigits m ++ '\n' :: rest) = none := by
    obtain ⟨d, ds, hds⟩ := List.exists_cons_of_ne_nil (natDigits_ne_nil m)
    have hd : d.isDigit = true := isDigit_of_mem_natDigits (n := m) (by simp [hds])
    rw [hds, List.cons_append, specialFloat?.eq_def]
    split
    next he => rw [(List.cons.inj he).1] at hd; cases hd
    next he => rw [(List.cons.inj he).1] at hd; cases hd
    next => rfl
  simp [number?, hsign, hspecial, wholeDigits?_natDigits, exponentPart?]

theorem decimal?_eq {cs : List Char} {negative : Bool} {m : Nat} {rest : List Char}
    (hsign : sign cs = (negative, natDigits m ++ '\n' :: rest)) :
    decimal? cs = (fits? (if negative then -(m : Int) else m)).map fun t => (t, '\n' :: rest) := by
  have hbase : ofBase 10 (natDigits m) = m :=
    (ofBase_ten fun c hc => isDigit_of_mem_natDigits hc).trans (ofDigitChars_natDigits m)
  simp only [decimal?, hsign, wholeDigits?_natDigits, hbase, Option.bind_eq_bind, Option.bind_some]
  cases fits? (if negative then -(m : Int) else m) <;> rfl

/-- An integer of 64 bits is read back. -/
theorem number?_renderInt {n : Int} (hlow : -0x8000000000000000 ≤ n)
    (hhigh : n < 0x8000000000000000) (rest : List Char) :
    number? ((renderInt n).toList ++ '\n' :: rest) =
      some (.integer (Int64.ofInt n), '\n' :: rest) := by
  by_cases hn : n < 0
  · rw [toList_renderInt_of_neg hn]
    have hsign : sign (('-' :: natDigits n.natAbs) ++ '\n' :: rest) =
        (true, natDigits n.natAbs ++ '\n' :: rest) := rfl
    have hint : integer? (('-' :: natDigits n.natAbs) ++ '\n' :: rest) =
        decimal? (('-' :: natDigits n.natAbs) ++ '\n' :: rest) := by
      simp [integer?]
    have habs : -(n.natAbs : Int) = n := by omega
    rw [number?_eq_integer? hsign, hint, decimal?_eq hsign, if_pos rfl, habs, fits?,
      if_pos ⟨hlow, hhigh⟩]
    rfl
  · rw [toList_renderInt_of_nonneg (by omega)]
    obtain ⟨d, ds, hds⟩ := List.exists_cons_of_ne_nil (natDigits_ne_nil n.natAbs)
    have hdigit : ∀ c ∈ d :: ds, c.isDigit = true := fun c hc =>
      isDigit_of_mem_natDigits (n := n.natAbs) (hds ▸ hc)
    have hd := hdigit d List.mem_cons_self
    have hminus : d ≠ '-' := by rintro rfl; cases hd
    have hplus : d ≠ '+' := by rintro rfl; cases hd
    have hsign : sign (natDigits n.natAbs ++ '\n' :: rest) =
        (false, natDigits n.natAbs ++ '\n' :: rest) := by
      rw [hds, List.cons_append]
      simp [sign, hminus, hplus]
    -- What follows a leading zero is the line break or another digit, never the mark of a base.
    have hint : integer? (natDigits n.natAbs ++ '\n' :: rest) =
        decimal? (natDigits n.natAbs ++ '\n' :: rest) := by
      obtain ⟨e, es, he, hmark⟩ : ∃ e es, ds ++ '\n' :: rest = e :: es ∧
          e ≠ 'x' ∧ e ≠ 'o' ∧ e ≠ 'b' := by
        cases ds with
        | nil => exact ⟨'\n', rest, rfl, by decide⟩
        | cons e es =>
          have hdig := hdigit e (by simp)
          refine ⟨e, es ++ '\n' :: rest, rfl, ?_, ?_, ?_⟩ <;> rintro rfl <;> cases hdig
      rw [hds, List.cons_append, he]
      simp [integer?, hmark]
    have habs : (n.natAbs : Int) = n := by omega
    rw [number?_eq_integer? hsign, hint, decimal?_eq hsign, if_neg (by decide), habs, fits?,
      if_pos ⟨hlow, hhigh⟩]
    rfl

/-! ## Values -/

namespace Scalar

/-- The term that a value is read as. -/
def term : Scalar → Term
  | string s => .string s
  | integer n => .integer (Int64.ofInt n)

/-- An integer fits into 64 bits. -/
def Fits : Scalar → Prop
  | string _ => True
  | integer n => -0x8000000000000000 ≤ n ∧ n < 0x8000000000000000

end Scalar

theorem stringText_head (s : String) :
    ∃ c cs, stringText s = c :: cs ∧ (c = '"' ∨ c = '\'') := by
  simp only [stringText]
  cases stringForm s.toList with
  | basic => exact ⟨_, _, rfl, .inl rfl⟩
  | literal => exact ⟨_, _, rfl, .inr rfl⟩
  | blockBasic => exact ⟨_, _, rfl, .inl rfl⟩
  | blockLiteral => exact ⟨_, _, rfl, .inr rfl⟩

/-- Behind the first digits of a date there is a hyphen. -/
theorem dropWhile_of_startsDate {cs : List Char} (h : startsDate cs = true) :
    (∀ c ∈ cs.head?, isDecimal c = true) ∧ (cs.dropWhile isDecimal).head? = some '-' := by
  rw [startsDate.eq_def] at h
  split at h
  next =>
    simp only [Bool.and_eq_true] at h
    simp [h, show isDecimal '-' = false from by decide]
  next => cases h

/-- Behind the first digits of a time there is a colon. -/
theorem dropWhile_of_startsTime {cs : List Char} (h : startsTime cs = true) :
    (∀ c ∈ cs.head?, isDecimal c = true) ∧ (cs.dropWhile isDecimal).head? = some ':' := by
  rw [startsTime.eq_def] at h
  split at h
  next =>
    simp only [Bool.and_eq_true] at h
    simp [h, show isDecimal ':' = false from by decide]
  next => cases h

/-- A number that ends its line is neither a date nor a time. -/
theorem starts_renderInt (n : Int) (rest : List Char) :
    startsDate ((renderInt n).toList ++ '\n' :: rest) = false ∧
      startsTime ((renderInt n).toList ++ '\n' :: rest) = false := by
  have hstop : (∀ c ∈ ((renderInt n).toList ++ '\n' :: rest).head?, isDecimal c = true) →
      (((renderInt n).toList ++ '\n' :: rest).dropWhile isDecimal).head? = some '\n' := by
    intro hhead
    by_cases hn : n < 0
    · rw [toList_renderInt_of_neg hn] at hhead
      exact absurd (hhead '-' rfl) (by decide)
    · have hdigit : ∀ c ∈ natDigits n.natAbs, isDecimal c = true := fun c hc =>
        isDecimal_of_isDigit (isDigit_of_mem_natDigits hc)
      have hstop : isDecimal '\n' = false := by decide
      rw [toList_renderInt_of_nonneg (by omega), dropWhile_append_stop hdigit (by simp [hstop])]
      rfl
  constructor
  · apply Bool.eq_false_iff.2
    intro h
    obtain ⟨hhead, hdrop⟩ := dropWhile_of_startsDate h
    rw [hstop hhead] at hdrop
    cases hdrop
  · apply Bool.eq_false_iff.2
    intro h
    obtain ⟨hhead, hdrop⟩ := dropWhile_of_startsTime h
    rw [hstop hhead] at hdrop
    cases hdrop

/-- **Every value is read back.** -/
theorem value?_text {v : Scalar} (hv : v.Fits) (fuel depth : Nat) (rest : List Char) :
    value? (fuel + 1) depth (v.text ++ '\n' :: rest) = some (v.term, '\n' :: rest) := by
  cases v with
  | string s =>
    have hread : string? (stringText s ++ '\n' :: rest) = some (s, '\n' :: rest) :=
      string?_stringText s (by simp)
    obtain ⟨c, cs, hcs, hc⟩ := stringText_head s
    rw [Scalar.text]
    rw [hcs] at hread ⊢
    rw [List.cons_append] at hread ⊢
    rcases hc with rfl | rfl <;> simp [value?, hread, Scalar.term]
  | integer n =>
    obtain ⟨hdate, htime⟩ := starts_renderInt n rest
    have hread := number?_renderInt hv.1 hv.2 rest
    rw [Scalar.text]
    obtain ⟨c, cs, hcs, hc⟩ := head_renderInt n
    rw [hcs] at hdate htime hread ⊢
    rw [List.cons_append] at hdate htime hread ⊢
    -- No other form of a value starts with a minus sign or a digit.
    have hother : ∀ d : Char, d ≠ '-' → d.isDigit = false → c ≠ d := by
      rintro d hm hd rfl
      rcases hc with rfl | hc
      · exact hm rfl
      · rw [hd] at hc
        cases hc
    simp [value?, hother '"', hother '\'', hother '[', hother '\x7b', hother 't', hother 'f', hdate,
      htime, hread, Scalar.term]

/-! ## Keys with points -/

theorem isSpace_eq_false_of_isBareKeyChar {c : Char} (h : isBareKeyChar c = true) :
    isSpace c = false := by
  apply Bool.eq_false_iff.2
  intro hs
  simp only [isSpace, Bool.or_eq_true, decide_eq_true_eq] at hs
  rcases hs with rfl | rfl <;> exact absurd h (by decide)

theorem skipSpace_of_head {c : Char} {cs : List Char} (h : isSpace c = false) :
    skipSpace (c :: cs) = c :: cs := by
  simp [skipSpace, h]

/-- No blank, bracket, comment or line break starts with the first character of a key. -/
theorem head_keyText_ne (key : String) : ∃ c cs, keyText key = c :: cs ∧ isSpace c = false ∧
    c ≠ '[' ∧ c ≠ '#' ∧ c ≠ '\n' ∧ c ≠ '\r' ∧ c ≠ '\uFEFF' := by
  obtain ⟨c, cs, hcs, rfl | rfl | hc⟩ := head_keyText key
  · exact ⟨_, _, hcs, by decide⟩
  · exact ⟨_, _, hcs, by decide⟩
  · refine ⟨c, cs, hcs, isSpace_eq_false_of_isBareKeyChar hc, ?_, ?_, ?_, ?_, ?_⟩ <;> rintro rfl <;>
      exact absurd hc (by decide)

/-- A place is read back up to what cannot belong to it. -/
theorem key?_pathText {path : List String} (hne : path ≠ []) (fuel : Nat)
    (hfuel : path.length ≤ fuel) {rest : List Char}
    (hstop : ∀ c ∈ rest.head?, isBareKeyChar c = false)
    (hpoint : ∀ c ∈ (skipSpace rest).head?, c ≠ '.') :
    key? fuel (pathText path ++ rest) = some (path, skipSpace rest) := by
  induction path generalizing fuel with
  | nil => exact absurd rfl hne
  | cons key path ih =>
    cases fuel with
    | zero => simp at hfuel
    | succ fuel =>
      obtain ⟨c, cs, hcs, hspace, -⟩ := head_keyText_ne key
      have hskip : ∀ r, skipSpace (keyText key ++ r) = keyText key ++ r := by
        intro r
        rw [hcs]
        exact skipSpace_of_head hspace
      cases path with
      | nil =>
        rw [pathText, key?, hskip, simpleKey?_keyText key hstop]
        simp only [Option.bind_eq_bind, Option.bind_some]
        generalize skipSpace rest = after at hpoint ⊢
        match after with
        | [] => rfl
        | d :: ds =>
          have hd : d ≠ '.' := hpoint d rfl
          simp [hd]
      | cons key' path =>
        have htail := ih (by simp) fuel (by simpa using hfuel)
        have hfirst : simpleKey? (keyText key ++ '.' :: (pathText (key' :: path) ++ rest)) =
            some (key, '.' :: (pathText (key' :: path) ++ rest)) := simpleKey?_keyText key
          (by simp [show isBareKeyChar '.' = false from by decide])
        have hdot : skipSpace ('.' :: (pathText (key' :: path) ++ rest)) =
            '.' :: (pathText (key' :: path) ++ rest) := skipSpace_of_head (by decide)
        rw [pathText, List.append_assoc, List.cons_append, key?, hskip, hfirst]
        · simp [hdot, htail]
        · simp

/-! ## Statements -/

theorem lineEnd?_newline (rest : List Char) : lineEnd? ('\n' :: rest) = some rest := by
  simp [lineEnd?, skipSpace, show isSpace '\n' = false from by decide, skipComment, lineBreak?]

/-- A line with a key and its value is read back. -/
theorem statement?_entryText {e : String × Scalar} (he : e.2.Fits) (rest : List Char) :
    statement? (entryText e ++ rest) = some (.entry [e.1] e.2.term, rest) := by
  obtain ⟨key, v⟩ := e
  have hkey : key? (nestingLimit - 1) (pathText [key] ++ ' ' :: '=' :: ' ' ::
      (v.text ++ '\n' :: rest)) = some ([key], _) := key?_pathText (by simp) (nestingLimit - 1)
    (by simp [nestingLimit]) (by simp [show isBareKeyChar ' ' = false from by decide])
    (by simp [skipSpace, isSpace])
  have hskip : skipSpace (' ' :: '=' :: ' ' :: (v.text ++ '\n' :: rest)) =
      '=' :: ' ' :: (v.text ++ '\n' :: rest) := by
    simp [skipSpace, isSpace]
  obtain ⟨w, ws, hw, hwspace⟩ : ∃ w ws, v.text ++ '\n' :: rest = w :: ws ∧ isSpace w = false := by
    cases v with
    | string s =>
      obtain ⟨c, cs, hcs, rfl | rfl⟩ := stringText_head s <;>
        exact ⟨_, _, by rw [Scalar.text, hcs]; rfl, by decide⟩
    | integer n =>
      obtain ⟨c, cs, hcs, hc⟩ := head_renderInt n
      refine ⟨c, _, by rw [Scalar.text, hcs]; rfl, ?_⟩
      rcases hc with rfl | hc
      · decide
      · exact isSpace_eq_false_of_isBareKeyChar (by simp [isBareKeyChar, Char.isAlphanum, hc])
  have hskipv : skipSpace (' ' :: (v.text ++ '\n' :: rest)) = v.text ++ '\n' :: rest := by
    have hblank : skipSpace (' ' :: (v.text ++ '\n' :: rest)) =
        skipSpace (v.text ++ '\n' :: rest) := by
      simp [skipSpace, isSpace]
    rw [hblank, hw, skipSpace_of_head hwspace]
  have hvalue := value?_text he (3 * (' ' :: (v.text ++ '\n' :: rest)).length + 2)
    (nestingLimit - 1) rest
  rw [pathText] at hkey
  rw [hskip] at hkey
  have htext : entryText (key, v) ++ rest =
      keyText key ++ ' ' :: '=' :: ' ' :: (v.text ++ '\n' :: rest) := by
    simp [entryText]
  rw [htext]
  obtain ⟨c, cs, hcs, -, hbracket, -⟩ := head_keyText_ne key
  rw [statement?.eq_def]
  split
  next h => rw [hcs] at h; exact absurd (List.cons.inj h).1 hbracket
  next h => rw [hcs] at h; exact absurd (List.cons.inj h).1 hbracket
  next =>
    simp only [dottedKey?, hkey, Option.bind_eq_bind, Option.bind_some]
    rw [hskipv, hvalue]
    simp [lineEnd?_newline]

/-- A header is read back. -/
theorem statement?_header {path : List String} (hne : path ≠ [])
    (hlen : path.length < nestingLimit) (rest : List Char) :
    statement? ('[' :: pathText path ++ [']', '\n'] ++ rest) = some (.table path, rest) := by
  have hstop : isBareKeyChar ']' = false := by decide
  have hkey : key? (nestingLimit - 1) (pathText path ++ ']' :: '\n' :: rest) = some (path, _) :=
    key?_pathText hne (nestingLimit - 1) (by omega) (by simp [hstop]) (by simp [skipSpace, isSpace])
  have hskip : skipSpace (']' :: '\n' :: rest) = ']' :: '\n' :: rest :=
    skipSpace_of_head (by decide)
  rw [hskip] at hkey
  obtain ⟨c, cs, hcs, hbracket⟩ : ∃ c cs, pathText path = c :: cs ∧ c ≠ '[' := by
    rcases path with - | ⟨key, - | ⟨key', path⟩⟩
    · exact absurd rfl hne
    · obtain ⟨c, cs, hcs, -, hbracket, -⟩ := head_keyText_ne key
      exact ⟨c, cs, hcs, hbracket⟩
    · obtain ⟨c, cs, hcs, -, hbracket, -⟩ := head_keyText_ne key
      exact ⟨c, _, by rw [pathText, hcs]; rfl; simp, hbracket⟩
  have htext : '[' :: pathText path ++ [']', '\n'] ++ rest =
      '[' :: (pathText path ++ ']' :: '\n' :: rest) := by
    simp
  rw [htext, statement?.eq_def]
  split
  next h =>
    rw [hcs] at h
    exact absurd (List.cons.inj (List.cons.inj h).2).1 hbracket
  next h =>
    rw [(List.cons.inj h).2] at hkey
    simp [dottedKey?, hkey, lineEnd?_newline]
  next h => exact absurd rfl (h _)

/-! ## Documents -/

/-- A text is read as statements, whatever fuel beyond its length there is. -/
def Reads (cs : List Char) (ss : List Statement) : Prop :=
  ∀ fuel, cs.length < fuel → statementsFrom? fuel cs = some ss

theorem Reads.nil : Reads [] [] := by
  intro fuel hfuel
  cases fuel with
  | zero => omega
  | succ fuel => simp [statementsFrom?, skipSpace]

/-- A line without a statement counts for nothing. -/
theorem Reads.newline {cs : List Char} {ss : List Statement} (h : Reads cs ss) :
    Reads ('\n' :: cs) ss := by
  intro fuel hfuel
  cases fuel with
  | zero => omega
  | succ fuel =>
    have hskip : skipSpace ('\n' :: cs) = '\n' :: cs := skipSpace_of_head (by decide)
    simp [statementsFrom?, hskip, lineBreak?, h fuel (by simpa using hfuel)]

theorem Reads.newlines {cs : List Char} {ss : List Statement} (h : Reads cs ss) (n : Nat) :
    Reads (List.replicate n '\n' ++ cs) ss := by
  induction n with
  | zero => exact h
  | succ n ih => exact ih.newline

theorem Reads.cons {c : Char} {text rest : List Char} {s : Statement} {ss : List Statement}
    (hc : isSpace c = false ∧ c ≠ '#' ∧ c ≠ '\n' ∧ c ≠ '\r')
    (hs : statement? (c :: text ++ rest) = some (s, rest)) (h : Reads rest ss) :
    Reads (c :: text ++ rest) (s :: ss) := by
  intro fuel hfuel
  obtain ⟨hspace, hhash, hn, hr⟩ := hc
  cases fuel with
  | zero => omega
  | succ fuel =>
    have hrest := h fuel (by simp only [List.length_append, List.length_cons] at hfuel; omega)
    have hskip : skipSpace (c :: text ++ rest) = c :: text ++ rest := skipSpace_of_head hspace
    have hbreak : lineBreak? (c :: text ++ rest) = none := by simp [lineBreak?, hn, hr]
    rw [List.cons_append] at hskip hs hbreak ⊢
    simp [statementsFrom?, hskip, hhash, hbreak, hs, hrest]

namespace Section

/-- The statements that a section stands for. -/
def statements (s : Section) : List Statement :=
  (if s.path = [] then [] else [.table s.path]) ++
    s.entries.map fun e => Statement.entry [e.1] e.2.term

/-- The place has fewer keys than a document may have, and the integers fit into 64 bits. -/
def Fits (s : Section) : Prop := s.path.length < nestingLimit ∧ ∀ e ∈ s.entries, e.2.Fits

end Section

theorem Reads.entries {es : List (String × Scalar)} (hes : ∀ e ∈ es, e.2.Fits) {rest : List Char}
    {ss : List Statement} (h : Reads rest ss) :
    Reads (es.flatMap entryText ++ rest) ((es.map fun e => .entry [e.1] e.2.term) ++ ss) := by
  induction es with
  | nil => exact h
  | cons e es ih =>
    have htail := ih fun e' he' => hes e' (List.mem_cons_of_mem _ he')
    have hs := statement?_entryText (hes e List.mem_cons_self) (es.flatMap entryText ++ rest)
    obtain ⟨c, cs, hcs, hspace, -, hhash, hn, hr, -⟩ := head_keyText_ne e.1
    have htext : ∃ text, entryText e = c :: text := ⟨_, by rw [entryText, hcs]; rfl⟩
    obtain ⟨text, htext⟩ := htext
    rw [List.flatMap_cons, List.append_assoc, List.map_cons, List.cons_append]
    rw [htext] at hs ⊢
    exact Reads.cons ⟨hspace, hhash, hn, hr⟩ hs htail

theorem Reads.section {s : Section} (hs : s.Fits) {rest : List Char} {ss : List Statement}
    (h : Reads rest ss) : Reads (s.text ++ rest) (s.statements ++ ss) := by
  have hentries := h.entries hs.2
  rw [Section.text, Section.statements, List.append_assoc, List.append_assoc]
  by_cases hp : s.path = []
  · rw [if_pos hp, if_pos hp]
    exact hentries
  · rw [if_neg hp, if_neg hp]
    exact Reads.cons (by decide) (statement?_header hp hs.1 _) hentries

theorem Reads.document {sections : List Section} (hs : ∀ s ∈ sections, s.Fits) {rest : List Char}
    (h : Reads rest []) :
    Reads (documentText sections ++ rest) (sections.flatMap Section.statements) := by
  induction sections with
  | nil => exact h
  | cons s sections ih =>
    have hhead := hs s List.mem_cons_self
    cases sections with
    | nil => exact h.section hhead
    | cons s' sections =>
      have htail := ih fun t ht => hs t (List.mem_cons_of_mem _ ht)
      rw [documentText, List.append_assoc, List.flatMap_cons, List.cons_append]
      · exact htail.newline.section hhead
      · simp

/-- A document does not start with a byte order mark. -/
theorem head_documentText (sections : List Section) (n : Nat) :
    ∀ c ∈ (documentText sections ++ List.replicate n '\n').head?, c ≠ '\uFEFF' := by
  have hnewlines : ∀ c ∈ (List.replicate n '\n').head?, c ≠ '\uFEFF' := by
    cases n <;> simp [List.replicate_succ]
  have hsection : ∀ s : Section, s.text = [] ∨ ∃ c cs, s.text = c :: cs ∧ c ≠ '\uFEFF' := by
    intro s
    rw [Section.text]
    split
    next =>
      cases s.entries with
      | nil => exact .inl rfl
      | cons e es =>
        obtain ⟨c, cs, hcs, -, -, -, -, -, hbom⟩ := head_keyText_ne e.1
        exact .inr ⟨c, _, by rw [List.flatMap_cons, entryText, hcs]; rfl, hbom⟩
    next => exact .inr ⟨_, _, rfl, by decide⟩
  match sections with
  | [] => exact hnewlines
  | [s] =>
    rcases hsection s with hs | ⟨c, cs, hs, hbom⟩
    · rw [documentText, hs]
      exact hnewlines
    · simp [documentText, hs, hbom]
  | s :: s' :: sections =>
    rcases hsection s with hs | ⟨c, cs, hs, hbom⟩
    · simp [documentText, hs]
    · simp [documentText, hs, hbom]

/-- **A written document is read back as its statements**, also with empty lines at its end. -/
theorem statements?_render {sections : List Section} (hs : ∀ s ∈ sections, s.Fits) (n : Nat) :
    statements? (render sections ++ String.ofList (List.replicate n '\n')) =
      some (sections.flatMap Section.statements) := by
  have hread : Reads (documentText sections ++ List.replicate n '\n')
      (sections.flatMap Section.statements) := by
    have hend : Reads (List.replicate n '\n') [] := by
      simpa using Reads.nil.newlines n
    exact Reads.document hs hend
  have hbom := head_documentText sections n
  have htext : (render sections ++ String.ofList (List.replicate n '\n')).toList =
      documentText sections ++ List.replicate n '\n' := by
    simp [render]
  rw [statements?, htext]
  generalize documentText sections ++ List.replicate n '\n' = cs at hbom hread
  match cs with
  | [] => exact hread _ (by simp)
  | c :: cs =>
    have hc : c ≠ '\uFEFF' := hbom c rfl
    simpa [hc] using hread _ (Nat.lt_succ_self _)

end Abacus.Toml
