import Abacus.Proofs.Settings.Layers
import Abacus.Proofs.Text.Blanks
import Abacus.Settings.Environment
import Abacus.Settings.Extract

/-!
# What the environment says

Variables are laid over each other in their order. As long as no variable hides what others say
below it, the environment says at a path what the last variable says that speaks of the path at all
(`at?_layer`). The decimal text of an integer, with or without a sign and with blanks around it, is
read as that integer (`value_of_written`).
-/

namespace Abacus.Settings.Environment

open Abacus.Text

/-! ## One variable -/

/-- The layer of a variable, if it holds a setting. -/
def layerOf? (v : String × String) : Option Layer :=
  (path? v.1).map fun path => nested path (value v.2)

/-- What the last variable says that says anything at a path. -/
def given? (environment : List (String × String)) (path : List String) : Option Layer :=
  environment.reverse.findSome? fun v => (layerOf? v).bind (Layer.at? path)

theorem add_eq (below : Layer) (v : String × String) :
    add below v.1 v.2 = match layerOf? v with
      | none => below
      | some l => below.merge l := by
  rw [add, layerOf?]
  cases path? v.1 <;> rfl

/-- What holds of values without parts, of lists, and of tables of values of which it holds, holds of
all that is read. -/
theorem forall_read {P : Layer → Prop} (hleaf : ∀ v, P (.leaf .environment v))
    (hlist : ∀ vs, P (.list .environment vs))
    (htable : ∀ es, (∀ e ∈ es, P e.2) → P (.table .environment (Entries.ofList es))) (fuel : Nat) :
    (∀ cs v rest, value? fuel cs = some (v, rest) → P v) ∧
      ∀ cs es rest, entries? fuel cs = some (es, rest) → ∀ e ∈ es, P e.2 := by
  induction fuel with
  | zero =>
    constructor
    · intro cs v rest h
      cases h
    · intro cs es rest h
      cases h
  | succ fuel ih =>
    obtain ⟨ihvalue, ihentries⟩ := ih
    constructor
    · intro cs v rest h
      rw [value?] at h
      obtain ⟨⟨v', rest'⟩, hread, heq⟩ := Option.map_eq_some_iff.1 h
      cases heq
      split at hread
      next =>
        obtain ⟨⟨vs, _⟩, -, heq⟩ := Option.map_eq_some_iff.1 hread
        cases heq
        exact hlist vs
      next =>
        obtain ⟨⟨es, _⟩, hes, heq⟩ := Option.map_eq_some_iff.1 hread
        cases heq
        exact htable es (ihentries _ es _ hes)
      next =>
        obtain ⟨⟨v, _⟩, -, heq⟩ := Option.map_eq_some_iff.1 hread
        cases heq
        exact hleaf v
    · intro cs es rest h
      rw [entries?.eq_def] at h
      simp only at h
      split at h
      next =>
        cases h
        simp
      next =>
        split at h
        next => cases h
        next k afterKey _ =>
          split at h
          next afterSign _ =>
            split at h
            next v afterValue hv =>
              obtain ⟨⟨es', _⟩, hes, heq⟩ := Option.map_eq_some_iff.1 h
              cases heq
              refine List.forall_mem_cons.2 ⟨ihvalue _ v _ hv, ihentries _ es' _ hes⟩
            next v afterValue hv =>
              cases h
              exact List.forall_mem_cons.2 ⟨ihvalue _ v _ hv, by simp⟩
            next => cases h
          next => cases h

theorem forall_value {P : Layer → Prop} (hleaf : ∀ v, P (.leaf .environment v))
    (hlist : ∀ vs, P (.list .environment vs))
    (htable : ∀ es, (∀ e ∈ es, P e.2) → P (.table .environment (Entries.ofList es)))
    (text : String) : P (value text) := by
  simp only [value]
  split
  next v hv => exact (forall_read hleaf hlist htable _).1 _ v [] hv
  next => exact hleaf _

/-- A table in braces is in order, like all that stands in it. -/
theorem ordered_value (text : String) : (value text).Ordered :=
  forall_value (fun _ => trivial) (fun _ => trivial) (fun _ h => Layer.ordered_ofList _ h) text

theorem ordered_nested {l : Layer} (h : l.Ordered) (path : List String) :
    (nested path l).Ordered := by
  induction path with
  | nil => exact h
  | cons k ks ih => exact ⟨List.pairwise_singleton _ _, ih, trivial⟩

theorem ordered_layerOf? {v : String × String} {l : Layer} (h : layerOf? v = some l) :
    l.Ordered := by
  obtain ⟨path, -, rfl⟩ := Option.map_eq_some_iff.1 h
  exact ordered_nested (ordered_value v.2) path

/-! ## All variables -/

/-- What holds of a layer without entries, and goes on to hold when a variable is laid over it, holds
of the layer of all variables. -/
theorem layer_induction {P : Layer → Prop} {environment : List (String × String)}
    (hempty : P (.table .environment []))
    (hmerge : ∀ v ∈ environment, ∀ l, layerOf? v = some l → ∀ acc, P acc → P (acc.merge l)) :
    P (layer environment) := by
  suffices h : ∀ acc, P acc → P (environment.foldl (fun below v => add below v.1 v.2) acc) from
    h _ hempty
  induction environment with
  | nil => exact fun acc hacc => hacc
  | cons v environment ih =>
    intro acc hacc
    have hadd : P (add acc v.1 v.2) := by
      rw [add_eq]
      cases hv : layerOf? v with
      | none => exact hacc
      | some l => exact hmerge v List.mem_cons_self l hv acc hacc
    exact ih (fun v hv => hmerge v (List.mem_cons_of_mem _ hv)) _ hadd

theorem ordered_layer (environment : List (String × String)) : (layer environment).Ordered :=
  layer_induction ⟨List.Pairwise.nil, trivial⟩ fun _ _ l hl _ hacc =>
    Layer.ordered_merge hacc l (ordered_layerOf? hl)

theorem from_value (text : String) : (value text).From .environment :=
  forall_value (Layer.from_leaf _) (Layer.from_list _)
    (fun _ h => Layer.from_table fun e he => h e (Entries.mem_of_mem_ofList he)) text

theorem from_nested {l : Layer} (h : l.From .environment) (path : List String) :
    (nested path l).From .environment := by
  induction path with
  | nil => exact h
  | cons k ks ih => exact Layer.from_table (List.forall_mem_singleton.2 ih)

/-- All that the environment says comes from it. -/
theorem from_layer (environment : List (String × String)) :
    (layer environment).From .environment := by
  refine layer_induction (Layer.from_table nofun) fun v _ l hl acc hacc => ?_
  have hordered := ordered_layerOf? hl
  obtain ⟨path, -, rfl⟩ := Option.map_eq_some_iff.1 hl
  exact hacc.merge (from_nested (from_value v.2) path) hordered

theorem given?_cons (v : String × String) (environment : List (String × String))
    (path : List String) :
    given? (v :: environment) path =
      (given? environment path).or ((layerOf? v).bind (Layer.at? path)) := by
  simp [given?, List.findSome?_append]

/-- **The last variable that says something at a path decides.** -/
theorem at?_layer {environment : List (String × String)} {path : List String} (hne : path ≠ [])
    (hopen : ∀ v ∈ environment, ∀ l, layerOf? v = some l → l.Opens path)
    (hvalue : ∀ v ∈ environment, ∀ l, layerOf? v = some l → ∀ w, l.at? path = some w →
      w.isTable = false) :
    (layer environment).at? path = given? environment path := by
  suffices h : ∀ acc : Layer,
      (environment.foldl (fun below v => add below v.1 v.2) acc).at? path =
        (given? environment path).or (acc.at? path) by
    obtain ⟨k, ks, rfl⟩ := List.exists_cons_of_ne_nil hne
    exact (h _).trans Option.or_none
  induction environment with
  | nil => exact fun acc => rfl
  | cons v environment ih =>
    intro acc
    have htail := ih (fun v hv => hopen v (List.mem_cons_of_mem _ hv))
      (fun v hv => hvalue v (List.mem_cons_of_mem _ hv))
    rw [List.foldl_cons, htail, add_eq, given?_cons, Option.or_assoc]
    congr 1
    cases hv : layerOf? v with
    | none => rfl
    | some l =>
      exact Layer.at?_merge_of_value (ordered_layerOf? hv) (hopen v List.mem_cons_self l hv)
        (hvalue v List.mem_cons_self l hv) acc

/-! ## Integers -/

/-- A character of a written integer. -/
def isNumeral (c : Char) : Bool := c.isDigit || c = '+' || c = '-'

theorem isNumeral_of_isDigit {c : Char} (h : c.isDigit = true) : isNumeral c = true := by
  simp [isNumeral, h]

theorem isNumeral_of_written {below above : Nat} {cs : List Char} {n : Int}
    (h : Written below above cs n) : ∀ c ∈ cs, isNumeral c = true :=
  h.forall_mem rfl rfl fun _ => isNumeral_of_isDigit

/-- Nothing that a value is told by starts with a numeral. -/
theorem ne_of_isNumeral {c : Char} (h : isNumeral c = true) :
    isBlank c = false ∧ isSpace c = false ∧ isSeparator c = false ∧ c ≠ 't' ∧ c ≠ 'f' ∧
      c ≠ '"' ∧ c ≠ '\'' ∧ c ≠ '[' ∧ c ≠ '\x7b' := by
  simp only [isNumeral, Bool.or_eq_true, decide_eq_true_eq] at h
  rcases h with (h | rfl) | rfl
  · refine of_isDigit (p := fun c => isBlank c = false ∧ isSpace c = false ∧
      isSeparator c = false ∧ c ≠ 't' ∧ c ≠ 'f' ∧ c ≠ '"' ∧ c ≠ '\'' ∧ c ≠ '[' ∧ c ≠ '\x7b')
      ?_ h
    decide
  · decide
  · decide

theorem float?_of_digits {cs ds : List Char} {negative : Bool}
    (hsign : Toml.sign cs = (negative, ds)) (hdigits : ∀ c ∈ ds, c.isDigit = true) :
    float? cs = none := by
  have hdecimal : ∀ c ∈ ds, Toml.isDecimal c = true := by
    intro c hc
    simp [Toml.isDecimal, digit?_of_isDigit (hdigits c hc)]
  simp [float?, hsign, digits, List.dropWhile_eq_nil_iff.2 hdecimal]

/-- An integer is taken as one: without a sign where there is no minus. -/
theorem bare_of_written {cs : List Char} {n : Int}
    (h : Written 0x8000000000000000 0x7FFFFFFFFFFFFFFF cs n) :
    bare cs = .signed n ∨ 0 ≤ n ∧ bare cs = .unsigned n.toNat := by
  have hunsigned (hn : 0 ≤ n) (hminus : ∀ c ∈ cs.head?, c ≠ '-') :
      unsigned? cs = some n.toNat := by
    have hread : readInteger 0 0xFFFFFFFFFFFFFFFF cs = .ok n :=
      readInteger_eq_ok.2 (h.of_no_minus hminus (by decide))
    rw [unsigned?.eq_def]
    split
    next => exact absurd rfl (hminus '-' rfl)
    next => rw [hread]; rfl
  cases h with
  | @plain c cs hdigits hle =>
    obtain ⟨hplus, hminus⟩ := ne_sign_of_isDigit (hdigits c List.mem_cons_self)
    have hsign : Toml.sign (c :: cs) = (false, c :: cs) := by
      rw [Toml.sign.eq_def]
      simp [hplus, hminus]
    have hn := Int.natCast_nonneg (Nat.ofDigitChars 10 (c :: cs) 0)
    refine .inr ⟨hn, ?_⟩
    rw [bare, float?_of_digits hsign hdigits, hunsigned hn (by simpa using hminus)]
  | @plus c cs hdigits hle =>
    have hn := Int.natCast_nonneg (Nat.ofDigitChars 10 (c :: cs) 0)
    have hsign : Toml.sign ('+' :: c :: cs) = (false, c :: cs) := rfl
    refine .inr ⟨hn, ?_⟩
    rw [bare, float?_of_digits hsign hdigits, hunsigned hn (by simp)]
  | @minus c cs hdigits hle =>
    have hread : readInt64 ('-' :: c :: cs) =
        .ok (Int64.ofInt (-(Nat.ofDigitChars 10 (c :: cs) 0 : Int))) := by
      rw [readInt64, readInteger_eq_ok.2 (Written.minus hdigits hle)]
      rfl
    have hsign : Toml.sign ('-' :: c :: cs) = (true, c :: cs) := rfl
    refine .inl ?_
    rw [bare, float?_of_digits hsign hdigits]
    simp only [unsigned?, hread]
    rw [Int64.toInt_ofInt_of_le (by omega) (by omega)]

/-- The text of an integer, with blanks around it or without, is that integer. -/
theorem value_of_written {text : String} {n : Int}
    (h : Written 0x8000000000000000 0x7FFFFFFFFFFFFFFF (trim text.toList) n) :
    value text = .leaf .environment (.signed n) ∨
      0 ≤ n ∧ value text = .leaf .environment (.unsigned n.toNat) := by
  have hnumeral := isNumeral_of_written h
  have hbare := bare_of_written h
  generalize hcs : trim text.toList = cs at h hnumeral hbare
  obtain ⟨c, rest, rfl⟩ : ∃ c rest, cs = c :: rest := by
    cases h <;> exact ⟨_, _, rfl⟩
  obtain ⟨-, hspace, -, ht, hf, hquote, hapostrophe, hbracket, hbrace⟩ :=
    ne_of_isNumeral (hnumeral c List.mem_cons_self)
  have hseparator : ∀ d ∈ c :: rest, (!isSeparator d) = true := by
    intro d hd
    simp [(ne_of_isNumeral (hnumeral d hd)).2.2.1]
  have htrim : trim (c :: rest) = c :: rest :=
    trim_of_trimmed (trimmed_self fun d hd => (ne_of_isNumeral (hnumeral d hd)).1)
  have hleaf : leaf? (c :: rest) = some (bare (c :: rest), []) := by
    rw [leaf?.eq_def]
    split
    next heq => cases heq; exact absurd rfl ht
    next heq => cases heq; exact absurd rfl hf
    next heq => cases heq; exact absurd rfl hquote
    next heq => cases heq; exact absurd rfl hapostrophe
    next heq => cases heq; exact absurd rfl hapostrophe
    next =>
      rw [List.takeWhile_eq_self_iff.2 hseparator, List.dropWhile_eq_nil_iff.2 hseparator, htrim]
  have hskip : skipSpace (c :: rest) = c :: rest := dropWhile_of_head (by simpa using hspace)
  have hread (fuel : Nat) :
      value? (fuel + 1) (c :: rest) = some (.leaf .environment (bare (c :: rest)), []) := by
    rw [value?, hskip]
    split
    next heq => cases heq; exact absurd rfl hbracket
    next heq => cases heq; exact absurd rfl hbrace
    next => rw [hleaf]; rfl
  simp only [value, hcs]
  rw [show 2 * (c :: rest).length + 2 = (2 * (c :: rest).length + 1) + 1 from rfl, hread]
  exact hbare.imp (congrArg _) (And.imp_right (congrArg _))

open Extractor in
/-- Any 64-bit integer can be set by its text, ... -/
theorem int64_value {text : String} {n : Int64} (h : readInt64 (trim text.toList) = .ok n) :
    int64 (value text) = .ok n := by
  obtain ⟨m, hm, rfl⟩ := map_eq_ok h
  have hwritten := readInteger_eq_ok.1 hm
  have hbounds := hwritten.bounds
  have hwithin : (-0x8000000000000000 : Int) ≤ m ∧ m ≤ 0x7FFFFFFFFFFFFFFF := by omega
  rcases value_of_written hwritten with hv | ⟨hpos, hv⟩
  · simp [int64, integer, hv, hwithin, Except.map]
  · simp [int64, integer, hv, Int.toNat_of_nonneg hpos, hwithin, Except.map]

open Extractor in
/-- ... and so can any 32-bit one without a sign. -/
theorem uint32_value {text : String} {n : Int}
    (h : readInteger 0 0xFFFFFFFF (trim text.toList) = .ok n) :
    uint32 (value text) = .ok n.toNat.toUInt32 := by
  have hwritten := readInteger_eq_ok.1 h
  have hbounds := hwritten.bounds
  have hwithin : (0 : Int) ≤ n ∧ n ≤ 0xFFFFFFFF := by omega
  rcases value_of_written (hwritten.mono (by decide) (by decide)) with hv | ⟨hpos, hv⟩
  · simp [uint32, integer, hv, hwithin, Except.map]
  · simp [uint32, integer, hv, Int.toNat_of_nonneg hpos, hwithin, Except.map]

/-- Of all variables one alone says something at a path. -/
def OnlySays (environment : List (String × String)) (path : List String) (text : String) : Prop :=
  ∃ name, (name, text) ∈ environment ∧ path? name = some path ∧
    ∀ v ∈ environment, v ≠ (name, text) → (layerOf? v).bind (Layer.at? path) = none

theorem at?_nested (path : List String) (l : Layer) : (nested path l).at? path = some l := by
  induction path with
  | nil => exact Layer.at?_nil l
  | cons k ks ih =>
    rw [nested, List.foldr_cons, Layer.at?_cons_table, List.lookup_cons_self]
    exact ih

theorem given?_of_onlySays {environment : List (String × String)} {path : List String}
    {text : String} (h : OnlySays environment path text) :
    given? environment path = some (value text) := by
  obtain ⟨name, hmem, hpath, hothers⟩ := h
  have hlayer : (layerOf? (name, text)).bind (Layer.at? path) = some (value text) := by
    rw [layerOf?, hpath]
    exact at?_nested path (value text)
  cases hgiven : given? environment path with
  | none =>
    have hnone := List.findSome?_eq_none_iff.1 hgiven (name, text) (List.mem_reverse.2 hmem)
    rw [hlayer] at hnone
    cases hnone
  | some l =>
    obtain ⟨v, hv, hl⟩ := List.exists_of_findSome?_eq_some hgiven
    by_cases heq : v = (name, text)
    · rw [heq, hlayer] at hl
      exact hl.symm
    · rw [hothers v (List.mem_reverse.1 hv) heq] at hl
      cases hl

end Abacus.Settings.Environment
