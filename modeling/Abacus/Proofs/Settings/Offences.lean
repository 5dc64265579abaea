import Abacus.Proofs.Settings.Leaves

/-!
# The first offence is the fault

A layer offends at a path if a group is no table there, or if a setting has a value there that it
cannot hold (`Layer.Offends`). Settings are read if a layer does not offend at all. Otherwise the
fault that is reported is the first offence, when the keys are taken in order at every level
(`NoLater`, `judged_settings`).

Reading a value at a place is judged by the offences below that place alone (`Layer.Judged`). A table
is judged entry by entry, and the judgement of the entries is that of the table
(`judged_of_judgedEntries`); so each group needs to know its own keys and nothing of how they are
read.
-/

namespace Abacus.Settings

/-! ## What settings can hold -/

namespace Layer

/-- The layer is an integer, read with a sign or without. -/
inductive IsInteger (n : Int) : Layer → Prop
  | signed (s : Source) : IsInteger n (.leaf s (.signed n))
  | unsigned (s : Source) {m : Nat} : n = m → IsInteger n (.leaf s (.unsigned m))

/-- The layer is a text, perhaps of a single character. -/
inductive IsText : Layer → Prop
  | text (s : Source) (t : String) : IsText (.leaf s (.text t))
  | character (s : Source) (c : Char) : IsText (.leaf s (.character c))

end Layer

/-- The value is one that the setting can hold. -/
def Setting.Holds : Setting → Layer → Prop
  | version, l => ∃ n, l.IsInteger n ∧ 0 ≤ n ∧ n ≤ 0xFFFFFFFF
  | initialValue, l | sumSeed, l | productSeed, l =>
    ∃ n, l.IsInteger n ∧ -0x8000000000000000 ≤ n ∧ n ≤ 0x7FFFFFFFFFFFFFFF
  | negativeSqrt, l => ∃ (s : Source) (p : SqrtPolicy), l = .leaf s (.text p.name)
  | level, l | module _, l => l.IsText

/-- A key at which the layer has what cannot stand there: something else where a group should be, or
a value that its setting cannot hold. -/
inductive Layer.Offends (L : Layer) : List String → Prop
  | group {place : List String} {l : Layer} : place ∈ groupPaths → L.at? place = some l →
      l.isTable = false → Offends L place
  | leaf (x : Setting) {l : Layer} : L.at? x.path = some l → ¬x.Holds l → Offends L x.path

/-- No list stands in the place of a group, and no table in that of the policy. -/
structure Layer.Plain (L : Layer) : Prop where
  groups : ∀ place ∈ groupPaths, ∀ l, L.at? place = some l → l.isList = false
  policy : ∀ l, L.at? Setting.negativeSqrt.path = some l → l.isTable = false

/-! ## Readers of single values -/

namespace Extractor

/-- An integer is read if it is in range, and blamed where it stands if it is not. -/
theorem integer_cases (expected : String) (least greatest : Int) (l : Layer) :
    (∃ n, integer expected least greatest l = .ok n ∧ l.IsInteger n ∧ least ≤ n ∧ n ≤ greatest) ∨
      ∃ f, integer expected least greatest l = .error f ∧ f.path = [] ∧ f.source = l.source ∧
        ¬∃ n, l.IsInteger n ∧ least ≤ n ∧ n ≤ greatest := by
  cases l with
  | list | table => exact .inr ⟨_, rfl, rfl, rfl, by rintro ⟨n, ⟨⟩, -⟩⟩
  | leaf s v =>
    cases v with
    | text | character | bool | float => exact .inr ⟨_, rfl, rfl, rfl, by rintro ⟨n, ⟨⟩, -⟩⟩
    | signed n =>
      by_cases hrange : least ≤ n ∧ n ≤ greatest
      · exact .inl ⟨n, if_pos hrange, .signed s, hrange⟩
      · refine .inr ⟨_, if_neg hrange, rfl, rfl, ?_⟩
        rintro ⟨m, ⟨⟩, hm⟩
        exact hrange hm
    | unsigned n =>
      by_cases hrange : least ≤ (n : Int) ∧ (n : Int) ≤ greatest
      · exact .inl ⟨n, if_pos hrange, .unsigned s rfl, hrange⟩
      · refine .inr ⟨_, if_neg hrange, rfl, rfl, ?_⟩
        rintro ⟨m, ⟨⟩ | ⟨-, rfl⟩, hm⟩
        exact hrange hm

theorem text_cases (l : Layer) : (∃ t, text l = .ok t ∧ l.IsText) ∨
    ∃ f, text l = .error f ∧ f.path = [] ∧ f.source = l.source ∧ ¬l.IsText := by
  cases l with
  | list | table => exact .inr ⟨_, rfl, rfl, rfl, nofun⟩
  | leaf s v =>
    cases v with
    | text t => exact .inl ⟨t, rfl, .text s t⟩
    | character c => exact .inl ⟨_, rfl, .character s c⟩
    | bool | signed | unsigned | float => exact .inr ⟨_, rfl, rfl, rfl, nofun⟩

theorem policy_cases {l : Layer} (hl : l.isTable = false) :
    (∃ p, policy l = .ok p ∧ Setting.negativeSqrt.Holds l) ∨
      ∃ f, policy l = .error f ∧ f.path = [] ∧ f.source = l.source ∧
        ¬Setting.negativeSqrt.Holds l := by
  cases l with
  | table => cases hl
  | list => exact .inr ⟨_, rfl, rfl, rfl, by rintro ⟨s, p, ⟨⟩⟩⟩
  | leaf s v =>
    cases v with
    | character | bool | signed | unsigned | float =>
      exact .inr ⟨_, rfl, rfl, rfl, by rintro ⟨s, p, ⟨⟩⟩⟩
    | text name =>
      rw [policy, policyOfName]
      cases hfind : SqrtPolicy.all.find? (·.name = name) with
      | some p =>
        have hname : p.name = name := by simpa using List.find?_some hfind
        exact .inl ⟨p, rfl, s, p, by rw [hname]⟩
      | none =>
        refine .inr ⟨_, rfl, rfl, rfl, ?_⟩
        rintro ⟨s', p, ⟨⟩⟩
        have hnone := List.find?_eq_none.1 hfind p (by cases p <;> simp [SqrtPolicy.all])
        exact hnone (decide_eq_true rfl)

end Extractor

/-- A setting is read from a value that it can hold, and any other value is blamed where it stands. -/
theorem Setting.read_cases (x : Setting) {l : Layer}
    (hpolicy : x = negativeSqrt → l.isTable = false) :
    (∃ a, x.read l = .ok a ∧ x.Holds l) ∨
      ∃ f, x.read l = .error f ∧ f.path = [] ∧ f.source = l.source ∧ ¬x.Holds l := by
  have hint64 : (∃ a, Extractor.int64 l = .ok a ∧ initialValue.Holds l) ∨
      ∃ f, Extractor.int64 l = .error f ∧ f.path = [] ∧ f.source = l.source ∧
        ¬initialValue.Holds l := by
    rcases Extractor.integer_cases "i64" (-0x8000000000000000) 0x7FFFFFFFFFFFFFFF l with
      ⟨n, hn, hholds⟩ | ⟨f, hf, hblame⟩
    · exact .inl ⟨_, by rw [Extractor.int64, hn]; rfl, n, hholds⟩
    · exact .inr ⟨f, by rw [Extractor.int64, hf]; rfl, hblame⟩
  cases x with
  | version =>
    rcases Extractor.integer_cases "u32" 0 0xFFFFFFFF l with ⟨n, hn, hholds⟩ | ⟨f, hf, hblame⟩
    · exact .inl ⟨_, by rw [read, Extractor.uint32, hn]; rfl, n, hholds⟩
    · exact .inr ⟨f, by rw [read, Extractor.uint32, hf]; rfl, hblame⟩
  | initialValue | sumSeed | productSeed => exact hint64
  | negativeSqrt => exact Extractor.policy_cases (hpolicy rfl)
  | level | module => exact Extractor.text_cases l

/-! ## Judgements -/

/-- The key of the first path is visited no later than that of the second one. The keys of a table
are taken in order, and a table comes before what stands in it. -/
inductive NoLater : List String → List String → Prop
  | nil (path : List String) : NoLater [] path
  | lt {k k' : String} (rest rest' : List String) : k < k' → NoLater (k :: rest) (k' :: rest')
  | cons (k : String) {rest rest' : List String} : NoLater rest rest' →
      NoLater (k :: rest) (k :: rest')

namespace Layer

/-- Nothing offends at or below the place. -/
def Clean (L : Layer) (place : List String) : Prop := ∀ path, ¬L.Offends (place ++ path)

/-- The fault, seen from the place, is the first offence below it, and blames the source of the value
there. -/
structure Blames (L : Layer) (place : List String) (f : Fault) : Prop where
  offends : L.Offends (place ++ f.path)
  first : ∀ path, L.Offends (place ++ path) → NoLater f.path path
  source : ∃ v, L.at? (place ++ f.path) = some v ∧ f.source = v.source

/-- The result of reading what stands at a place. -/
def Judged {α : Type} (L : Layer) (place : List String) : Except Fault α → Prop
  | .ok _ => L.Clean place
  | .error f => L.Blames place f

/-- The result of reading entries of the table at a place: the first one that is not clean is
blamed. -/
def JudgedEntries {α : Type} (L : Layer) (place : List String) (es : List (String × Layer)) :
    Except Fault α → Prop
  | .ok _ => ∀ e ∈ es, L.Clean (place ++ [e.1])
  | .error f => ∃ before k v after g, es = before ++ (k, v) :: after ∧
      (∀ e ∈ before, L.Clean (place ++ [e.1])) ∧ f = g.under k ∧ L.Blames (place ++ [k]) g

variable {L : Layer} {place : List String} {α β : Type}

theorem Judged.map {r : Except Fault α} (h : L.Judged place r) (f : α → β) :
    L.Judged place (r.map f) := by
  cases r <;> exact h

theorem JudgedEntries.map {es : List (String × Layer)} {r : Except Fault α}
    (h : L.JudgedEntries place es r) (f : α → β) : L.JudgedEntries place es (r.map f) := by
  cases r <;> exact h

theorem Offends.exists_at? {path : List String} (h : L.Offends path) :
    ∃ l, L.at? path = some l := by
  cases h with
  | group _ hl | leaf _ hl => exact ⟨_, hl⟩

end Layer

theorem Setting.path_not_mem_groupPaths (x : Setting) : x.path ∉ groupPaths := by
  cases x <;> simp [path, groupPaths]

theorem Setting.path_injective : Function.Injective path := by
  intro x y h
  cases x <;> cases y <;> simp_all [path]

namespace Layer

variable {L : Layer} {place : List String} {α β : Type} {es : List (String × Layer)}

/-- A group that is a table does not offend itself. -/
theorem not_offends_table {s : Source} (hplace : place ∈ groupPaths)
    (hl : L.at? place = some (.table s es)) : ¬L.Offends place := by
  intro hoffends
  cases hoffends with
  | group _ hl' hnot =>
    rw [hl] at hl'
    cases hl'
    cases hnot
  | leaf x => exact x.path_not_mem_groupPaths hplace

/-- Below a table there is nothing but its entries. -/
theorem exists_entry_of_offends {s : Source} {path : List String} (hplace : place ∈ groupPaths)
    (hl : L.at? place = some (.table s es)) (h : L.Offends (place ++ path)) :
    ∃ k rest v, path = k :: rest ∧ (k, v) ∈ es ∧ L.Offends (place ++ [k] ++ rest) := by
  cases path with
  | nil =>
    rw [List.append_nil] at h
    exact absurd h (not_offends_table hplace hl)
  | cons k rest =>
    obtain ⟨w, hw⟩ := h.exists_at?
    rw [at?_append, hl, Option.bind_some, at?_cons_table] at hw
    obtain ⟨v, hv, -⟩ := Option.bind_eq_some_iff.1 hw
    exact ⟨k, rest, v, rfl, Entries.mem_of_lookup hv, by simpa using h⟩

/-- **The first offence of the entries is the first of their table.** -/
theorem judged_of_judgedEntries {s : Source} {r : Except Fault α} (hplace : place ∈ groupPaths)
    (hl : L.at? place = some (.table s es)) (hes : Entries.Ordered es)
    (h : L.JudgedEntries place es r) : L.Judged place r := by
  cases r with
  | ok a =>
    intro path hoffends
    obtain ⟨k, rest, v, -, hmem, hbelow⟩ := exists_entry_of_offends hplace hl hoffends
    exact h (k, v) hmem rest hbelow
  | error f =>
    obtain ⟨before, k, v, after, g, rfl, hbefore, rfl, hblames⟩ := h
    have hpath : place ++ (g.under k).path = place ++ [k] ++ g.path := by simp [Fault.under]
    refine ⟨by rw [hpath]; exact hblames.offends, fun path hoffends => ?_, ?_⟩
    · obtain ⟨k', rest, v', rfl, hmem, hbelow⟩ := exists_entry_of_offends hplace hl hoffends
      -- Earlier entries are clean, and later ones have greater keys.
      rcases List.mem_append.1 hmem with hmem | hmem
      · exact absurd hbelow (hbefore _ hmem rest)
      · rcases List.mem_cons.1 hmem with heq | hmem
        · cases heq
          exact .cons k (hblames.first rest hbelow)
        · have hafter := (List.pairwise_append.1 hes).2.1
          exact .lt _ _ ((List.pairwise_cons.1 hafter).1 (k', v') hmem)
    · rw [hpath]
      exact hblames.source

theorem judged_mismatch {l : Layer} (hplace : place ∈ groupPaths) (hl : L.at? place = some l)
    (hnot : l.isTable = false) (expected : String) :
    L.Judged (α := α) place (.error (Extractor.mismatch expected l)) where
  offends := by
    rw [show (Extractor.mismatch expected l).path = [] from rfl, List.append_nil]
    exact .group hplace hl hnot
  first path _ := .nil path
  source := ⟨l, by rw [show (Extractor.mismatch expected l).path = [] from rfl, List.append_nil, hl],
    rfl⟩

/-- One more entry in front. -/
theorem judgedEntries_cons {k : String} {v : Layer} {first : Except Fault α}
    {next : α → Except Fault β} (hfirst : L.Judged (place ++ [k]) first)
    (hnext : ∀ a, L.JudgedEntries place es (next a)) :
    L.JudgedEntries place ((k, v) :: es) (first.mapError (Fault.under k) >>= next) := by
  cases first with
  | error g => exact ⟨[], k, v, es, g, rfl, nofun, rfl, hfirst⟩
  | ok a =>
    have hrest := hnext a
    show L.JudgedEntries place ((k, v) :: es) (next a)
    cases hr : next a with
    | ok b =>
      rw [hr] at hrest
      exact List.forall_mem_cons.2 ⟨hfirst, hrest⟩
    | error f =>
      rw [hr] at hrest
      obtain ⟨before, k', v', after, g, rfl, hbefore, hf, hblames⟩ := hrest
      exact ⟨(k, v) :: before, k', v', after, g, rfl, List.forall_mem_cons.2 ⟨hfirst, hbefore⟩, hf,
        hblames⟩

end Layer

/-! ## Settings and groups -/

theorem Setting.Holds.isTable_eq_false {x : Setting} {l : Layer} (h : x.Holds l) :
    l.isTable = false := by
  cases l with
  | leaf | list => rfl
  | table =>
    cases x with
    | version | initialValue | sumSeed | productSeed =>
      obtain ⟨n, ⟨⟩, -⟩ := h
    | negativeSqrt =>
      obtain ⟨s, p, ⟨⟩⟩ := h
    | level | module => cases h

theorem Setting.not_holds_of_offends {x : Setting} {L l : Layer} (h : L.Offends x.path)
    (hl : L.at? x.path = some l) : ¬x.Holds l := by
  generalize hpath : x.path = path at h
  cases h with
  | group hplace => exact absurd (hpath ▸ hplace) x.path_not_mem_groupPaths
  | leaf y hl' hnot =>
    obtain rfl := path_injective hpath
    rw [hl] at hl'
    cases hl'
    exact hnot

/-- What a setting makes of its place is judged by what it can hold. -/
theorem Setting.judged_read (x : Setting) {L l : Layer} (hl : L.at? x.path = some l)
    (hpolicy : x = negativeSqrt → l.isTable = false) : L.Judged x.path (x.read l) := by
  rcases x.read_cases hpolicy with ⟨a, hread, hholds⟩ | ⟨f, hread, hpath, hsource, hnot⟩
  · rw [hread]
    intro path hoffends
    cases path with
    | nil =>
      rw [List.append_nil] at hoffends
      exact not_holds_of_offends hoffends hl hholds
    | cons k ks =>
      -- There is nothing below a value that a setting can hold.
      obtain ⟨w, hw⟩ := hoffends.exists_at?
      rw [Layer.at?_append, hl, Option.bind_some] at hw
      cases l with
      | leaf | list => cases hw
      | table => cases hholds.isTable_eq_false
  · rw [hread]
    refine ⟨?_, ?_, ?_⟩
    · rw [hpath, List.append_nil]
      exact .leaf x hl hnot
    · rw [hpath]
      exact fun path _ => .nil path
    · rw [hpath, List.append_nil]
      exact ⟨l, hl, hsource⟩

namespace Extractor

variable {L l : Layer} {place : List String} {α : Type}

theorem clean_of_unknown {k : String}
    (hgroup : ∀ path, place ++ k :: path ∉ groupPaths)
    (hsetting : ∀ (x : Setting) path, place ++ k :: path ≠ x.path) : L.Clean (place ++ [k]) := by
  intro path h
  rw [List.append_assoc, List.singleton_append] at h
  generalize hpath : place ++ k :: path = whole at h
  cases h with
  | group hplace => exact hgroup path (hpath ▸ hplace)
  | leaf x => exact hsetting x path hpath

/-- The groups with keys of their own, and these keys. -/
def groupKeys : List (List String × List String) :=
  [([], settingsWriters.map Prod.fst), (["defaults"], defaultsWriters.map Prod.fst),
    (["scientific"], scientificWriters.map Prod.fst), (["logging"], loggingWriters.map Prod.fst)]

theorem mem_groupPaths_of_groupKeys {keys : List String} (h : (place, keys) ∈ groupKeys) :
    place ∈ groupPaths := by
  simp only [groupKeys, List.mem_cons, Prod.mk.injEq, List.not_mem_nil, or_false] at h
  rcases h with ⟨rfl, -⟩ | ⟨rfl, -⟩ | ⟨rfl, -⟩ | ⟨rfl, -⟩ <;> simp [groupPaths]

/-- Under any other key of a group nothing can offend. -/
theorem clean_of_lookup {writers : Writers α} (h : (place, writers.map Prod.fst) ∈ groupKeys)
    {k : String} (hk : writers.lookup k = none) : L.Clean (place ++ [k]) := by
  have hkey : k ∉ writers.map Prod.fst := by
    rintro hmem
    obtain ⟨e, he, rfl⟩ := List.mem_map.1 hmem
    simpa using List.lookup_eq_none_iff.1 hk e he
  -- Only the keys matter from here on, not what is written under them.
  revert hkey
  generalize writers.map Prod.fst = keys at h
  intro hkey
  simp only [groupKeys, List.mem_cons, Prod.mk.injEq, List.not_mem_nil, or_false] at h
  refine clean_of_unknown (fun path hpath => ?_) fun x path hpath => ?_
  · rcases h with ⟨rfl, rfl⟩ | ⟨rfl, rfl⟩ | ⟨rfl, rfl⟩ | ⟨rfl, rfl⟩ <;>
      simp_all [groupPaths, settingsWriters, loggingWriters]
  · rcases h with ⟨rfl, rfl⟩ | ⟨rfl, rfl⟩ | ⟨rfl, rfl⟩ | ⟨rfl, rfl⟩ <;> cases x <;>
      simp_all [Setting.path, settingsWriters, defaultsWriters, scientificWriters, loggingWriters]

theorem judged_takeEntries {writers : Writers α}
    (hknown : ∀ e ∈ writers, ∀ v, L.at? (place ++ [e.1]) = some v →
      ∀ a, L.Judged (place ++ [e.1]) (e.2 a v))
    (hunknown : ∀ k, writers.lookup k = none → L.Clean (place ++ [k]))
    {es : List (String × Layer)} (hes : ∀ e ∈ es, L.at? (place ++ [e.1]) = some e.2) (a : α) :
    L.JudgedEntries place es (takeEntries writers a es) := by
  induction es generalizing a with
  | nil => exact nofun
  | cons e es ih =>
    obtain ⟨k, v⟩ := e
    obtain ⟨hv, hrest⟩ := List.forall_mem_cons.1 hes
    rw [takeEntries]
    cases hk : writers.lookup k with
    | none =>
      have hfirst : L.Judged (place ++ [k]) (.ok a : Except Fault α) := hunknown k hk
      exact Layer.judgedEntries_cons hfirst fun a => ih hrest a
    | some write =>
      exact Layer.judgedEntries_cons (hknown (k, write) (Entries.mem_of_lookup hk) v hv a) fun b =>
        ih hrest b

/-- A group is judged by its own keys. -/
theorem judged_group (hL : L.Ordered) (hplain : L.Plain) {writers : Writers α}
    (hkeys : (place, writers.map Prod.fst) ∈ groupKeys)
    (hknown : ∀ e ∈ writers, ∀ v, L.at? (place ++ [e.1]) = some v →
      ∀ a, L.Judged (place ++ [e.1]) (e.2 a v))
    (hl : L.at? place = some l) (name : String) (absent : α) :
    L.Judged place (group name writers absent l) := by
  have hplace := mem_groupPaths_of_groupKeys hkeys
  cases l with
  | leaf => exact Layer.judged_mismatch hplace hl rfl _
  | list => cases hplain.groups place hplace _ hl
  | table s es =>
    have hes : Entries.Ordered es := (hL.at? hl).1
    refine Layer.judged_of_judgedEntries hplace hl hes
      (judged_takeEntries hknown (fun _ => clean_of_lookup hkeys) (fun e he => ?_) absent)
    rw [Layer.at?_concat_of_table hl]
    exact hes.lookup_of_mem he

theorem judged_textEntries {es : List (String × Layer)}
    (htext : ∀ e ∈ es, L.Judged (place ++ [e.1]) (text e.2)) :
    L.JudgedEntries place es (textEntries es) := by
  induction es with
  | nil => exact nofun
  | cons e es ih =>
    obtain ⟨k, v⟩ := e
    obtain ⟨hv, hrest⟩ := List.forall_mem_cons.1 htext
    exact Layer.judgedEntries_cons hv fun t => (ih hrest).map fun ts => (k, t) :: ts

theorem judged_textMap (hL : L.Ordered) (hplace : place ∈ groupPaths) (hl : L.at? place = some l)
    (htext : ∀ k v, L.at? (place ++ [k]) = some v → L.Judged (place ++ [k]) (text v)) :
    L.Judged place (textMap l) := by
  cases l with
  | leaf | list => exact Layer.judged_mismatch hplace hl rfl _
  | table s es =>
    have hes : Entries.Ordered es := (hL.at? hl).1
    refine Layer.Judged.map (Layer.judged_of_judgedEntries hplace hl hes
      (judged_textEntries fun e he => htext e.1 e.2 ?_)) _
    rw [Layer.at?_concat_of_table hl]
    exact hes.lookup_of_mem he

end Extractor

/-! ## All settings -/

open Extractor in
/-- **Settings are judged by the first offence of their layer.** -/
theorem judged_settings {L : Layer} (hL : L.Ordered) (hplain : L.Plain) :
    L.Judged [] (Extractor.settings L) := by
  have hsetting (x : Setting) {γ : Type} (set : γ → x.Value → γ) (l : Layer)
      (hl : L.at? x.path = some l) (a : γ) : L.Judged x.path (writing x.read set a l) :=
    (x.judged_read hl (by rintro rfl; exact hplain.policy l hl)).map (set a)
  have hdefaults (l : Layer) (hl : L.at? ["defaults"] = some l) :
      L.Judged ["defaults"] (Extractor.defaults l) := by
    refine judged_group hL hplain (by simp [groupKeys]) ?_ hl _ _
    simp only [defaultsWriters, List.forall_mem_cons]
    exact ⟨hsetting .initialValue _, hsetting .sumSeed _, hsetting .productSeed _, by simp⟩
  have hscientific (l : Layer) (hl : L.at? ["scientific"] = some l) :
      L.Judged ["scientific"] (Extractor.scientific l) := by
    refine judged_group hL hplain (by simp [groupKeys]) ?_ hl _ _
    simp only [scientificWriters, List.forall_mem_cons]
    exact ⟨hsetting .negativeSqrt _, by simp⟩
  have hmodules (l : Layer) (hl : L.at? ["logging", "modules"] = some l) :
      L.Judged ["logging", "modules"] (textMap l) :=
    judged_textMap hL (by simp [groupPaths]) hl fun k v hv =>
      Setting.judged_read (.module k) hv (by rintro ⟨⟩)
  have hlogging (l : Layer) (hl : L.at? ["logging"] = some l) :
      L.Judged ["logging"] (Extractor.logging l) := by
    refine judged_group hL hplain (by simp [groupKeys]) ?_ hl _ _
    simp only [loggingWriters, List.forall_mem_cons]
    exact ⟨hsetting .level _, fun l hl a => (hmodules l hl).map _, by simp⟩
  refine judged_group hL hplain (by simp [groupKeys]) ?_ (Layer.at?_nil L) _ _
  simp only [settingsWriters, List.forall_mem_cons]
  exact ⟨hsetting .version _, fun l hl a => (hdefaults l hl).map _,
    fun l hl a => (hscientific l hl).map _, fun l hl a => (hlogging l hl).map _, by simp⟩

end Abacus.Settings
