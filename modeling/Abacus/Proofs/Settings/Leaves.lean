import Abacus.Proofs.Settings.Layers
import Abacus.Settings.Extract

/-!
# Settings leaf by leaf

Every single setting has its place in a layer and its own reader. Settings are read from a layer if
each place that the layer fills can be read, and then each setting is what its place holds, or its
default (`settings_leaves`); settings with the same leaves are the same (`Setting.ext`).

The groups share one argument. A table is read entry by entry; an entry writes the field of its key
and keeps the others, so that the field ends up with the one entry that has its key.
-/

namespace Abacus.Settings

/-- A single setting. -/
inductive Setting where
  | version
  | initialValue
  | sumSeed
  | productSeed
  | negativeSqrt
  | level
  /-- The level of the targets below a module. -/
  | module (name : String)

namespace Setting

/-- Where the setting is found in a layer. -/
def path : Setting → List String
  | version => ["version"]
  | initialValue => ["defaults", "initial_value"]
  | sumSeed => ["defaults", "sum_seed"]
  | productSeed => ["defaults", "product_seed"]
  | negativeSqrt => ["scientific", "negative_sqrt"]
  | level => ["logging", "default"]
  | module name => ["logging", "modules", name]

/-- What the setting is. -/
def Value : Setting → Type
  | version => UInt32
  | initialValue | sumSeed | productSeed => Int64
  | negativeSqrt => SqrtPolicy
  | level | module _ => String

/-- How the setting is read. -/
def read : (x : Setting) → Extractor x.Value
  | version => Extractor.uint32
  | initialValue | sumSeed | productSeed => Extractor.int64
  | negativeSqrt => Extractor.policy
  | level | module _ => Extractor.text

/-- The setting among all settings. -/
def get? (s : Settings) : (x : Setting) → Option x.Value
  | version => some s.version
  | initialValue => some s.defaults.initialValue
  | sumSeed => some s.defaults.sumSeed
  | productSeed => some s.defaults.productSeed
  | negativeSqrt => some s.scientific.negativeSqrt
  | level => some s.logging.default
  | module name => s.logging.modules.get? name

/-- Settings are fixed by their leaves. -/
theorem ext {s t : Settings} (h : ∀ x : Setting, x.get? s = x.get? t) : s = t := by
  obtain ⟨v, ⟨i, a, b⟩, ⟨p⟩, ⟨d, m⟩⟩ := s
  obtain ⟨v', ⟨i', a', b'⟩, ⟨p'⟩, ⟨d', m'⟩⟩ := t
  have hversion : v = v' := Option.some.inj (h version)
  have hinitial : i = i' := Option.some.inj (h initialValue)
  have hsum : a = a' := Option.some.inj (h sumSeed)
  have hproduct : b = b' := Option.some.inj (h productSeed)
  have hpolicy : p = p' := Option.some.inj (h negativeSqrt)
  have hlevel : d = d' := Option.some.inj (h level)
  have hmodules : m = m' :=
    Dict.ext_entries (Entries.ext_lookup m.ordered m'.ordered fun k => h (module k))
  subst hversion hinitial hsum hproduct hpolicy hlevel hmodules
  rfl

end Setting

/-! ## Groups -/

namespace Extractor

variable {α β : Type}

/-- What a field gets from its place, if that is filled. -/
def valueOr (read : Extractor β) (absent : β) : Option Layer → Except Fault β
  | none => .ok absent
  | some l => read l

theorem writing_eq_ok {read : Extractor β} {set : α → β → α} {a a' : α} {l : Layer} :
    writing read set a l = .ok a' ↔ ∃ b, read l = .ok b ∧ set a b = a' := by
  rw [writing]
  cases read l with
  | error e => simp [Except.map]
  | ok b => simp [Except.map]

/-- A writer that leaves a field as it is. -/
def Keeps {γ : Type} (field : α → γ) (write : α → Layer → Except Fault α) : Prop :=
  ∀ a l a', write a l = .ok a' → field a' = field a

/-- A field of a group: the writer of its key writes it, and no other writer touches it. -/
structure Field (writers : Writers α) (key : String) (read : Extractor β) (field : α → β) :
    Prop where
  written : ∃ set, writers.lookup key = some (writing read set) ∧ ∀ a b, field (set a b) = b
  kept : ∀ e ∈ writers, e.1 ≠ key → Keeps field e.2

theorem keeps_writing {γ : Type} {read : Extractor β} {set : α → β → α} {field : α → γ}
    (h : ∀ a b, field (set a b) = field a) : Keeps field (writing read set) := by
  intro a l a' hw
  obtain ⟨b, -, rfl⟩ := writing_eq_ok.1 hw
  exact h a b

/-- What one entry does to a field. -/
theorem Field.entry {writers : Writers α} {key : String} {read : Extractor β} {field : α → β}
    (hf : Field writers key read field) {k : String} {v : Layer} {es : List (String × Layer)}
    {a a' : α} (h : takeEntries writers a ((k, v) :: es) = .ok a') :
    ∃ b, takeEntries writers b es = .ok a' ∧
      if k = key then read v = .ok (field b) else field b = field a := by
  obtain ⟨set, hset, hfield⟩ := hf.written
  rw [takeEntries] at h
  cases hk : writers.lookup k with
  | none =>
    rw [hk] at h
    have hne : k ≠ key := by
      rintro rfl
      rw [hk] at hset
      cases hset
    exact ⟨a, h, by rw [if_neg hne]⟩
  | some write =>
    rw [hk] at h
    simp only at h
    cases hw : write a v with
    | error e =>
      rw [hw] at h
      cases h
    | ok b =>
      rw [hw] at h
      refine ⟨b, h, ?_⟩
      split
      next heq =>
        rw [heq, hset] at hk
        cases hk
        obtain ⟨c, hc, rfl⟩ := writing_eq_ok.1 hw
        rw [hc, hfield]
      next hne => exact hf.kept (k, write) (Entries.mem_of_lookup hk) hne a v b hw

/-- **A field ends up with the entry of its key.** -/
theorem Field.takeEntries {writers : Writers α} {key : String} {read : Extractor β}
    {field : α → β} (hf : Field writers key read field) {es : List (String × Layer)}
    (hes : Entries.Ordered es) {a a' : α} (h : Extractor.takeEntries writers a es = .ok a') :
    valueOr read (field a) (es.lookup key) = .ok (field a') := by
  induction es generalizing a with
  | nil =>
    cases h
    rfl
  | cons e es ih =>
    obtain ⟨k, v⟩ := e
    obtain ⟨b, hb, hentry⟩ := hf.entry h
    have htail := ih hes.tail hb
    by_cases hk : k = key
    · subst hk
      rw [if_pos rfl] at hentry
      rw [hes.lookup_head] at htail
      rw [List.lookup_cons_self]
      exact hentry.trans htail
    · rw [if_neg hk] at hentry
      rw [hentry] at htail
      rwa [Entries.lookup_cons_of_ne (Ne.symm hk)]

/-- The writers of a group can take what stands for them in a table. -/
def Takes (writers : Writers α) (at? : String → Option Layer) : Prop :=
  ∀ e ∈ writers, ∀ l, at? e.1 = some l → ∀ a, ∃ a', e.2 a l = .ok a'

theorem takeEntries_isOk {writers : Writers α} {es : List (String × Layer)}
    (hes : Entries.Ordered es) (h : Takes writers fun k => es.lookup k) (a : α) :
    ∃ a', takeEntries writers a es = .ok a' := by
  induction es generalizing a with
  | nil => exact ⟨a, rfl⟩
  | cons e es ih =>
    obtain ⟨k, v⟩ := e
    have htail := ih hes.tail fun e he l (hl : es.lookup e.1 = some l) => by
      have hne : e.1 ≠ k := by
        intro heq
        have hnone : es.lookup e.1 = none := heq ▸ hes.lookup_head
        rw [hnone] at hl
        cases hl
      exact h e he l ((Entries.lookup_cons_of_ne hne v es).trans hl)
    rw [takeEntries]
    cases hk : writers.lookup k with
    | none => exact htail a
    | some write =>
      obtain ⟨b, hb : write a v = .ok b⟩ :=
        h (k, write) (Entries.mem_of_lookup hk) v (List.lookup_cons_self) a
      simp only [hb]
      exact htail b

/-- **A group is read if each of its places can be, and each field gets what its place holds.** -/
theorem group_at {L : Layer} (hL : L.Ordered) (name : String) (writers : Writers α)
    (absent : α) (place : List String)
    (htable : ∀ l, L.at? place = some l → l.isTable = true)
    (htakes : Takes writers fun k => L.at? (place ++ [k])) :
    ∃ a, valueOr (group name writers absent) absent (L.at? place) = .ok a ∧
      ∀ {β : Type} {key : String} {read : Extractor β} {field : α → β},
        Field writers key read field →
          valueOr read (field absent) (L.at? (place ++ [key])) = .ok (field a) := by
  cases hplace : L.at? place with
  | none =>
    refine ⟨absent, rfl, fun {β key read field} _ => ?_⟩
    rw [Layer.at?_concat_of_none hplace]
    rfl
  | some l =>
    obtain ⟨s, es, rfl⟩ := Layer.eq_table (htable l hplace)
    have hget (k : String) : L.at? (place ++ [k]) = es.lookup k :=
      Layer.at?_concat_of_table hplace k
    have hes : Entries.Ordered es := (hL.at? hplace).1
    obtain ⟨a, ha⟩ := takeEntries_isOk hes
      (fun e he l hl => htakes e he l ((hget e.1).trans hl)) absent
    refine ⟨a, ha, fun {β key read field} hf => ?_⟩
    rw [hget]
    exact hf.takeEntries hes ha

theorem field_initialValue :
    Field defaultsWriters "initial_value" int64 DefaultsConfig.initialValue :=
  ⟨⟨_, rfl, fun _ _ => rfl⟩, by simp [defaultsWriters, keeps_writing]⟩

theorem field_sumSeed : Field defaultsWriters "sum_seed" int64 DefaultsConfig.sumSeed :=
  ⟨⟨_, rfl, fun _ _ => rfl⟩, by simp [defaultsWriters, keeps_writing]⟩

theorem field_productSeed :
    Field defaultsWriters "product_seed" int64 DefaultsConfig.productSeed :=
  ⟨⟨_, rfl, fun _ _ => rfl⟩, by simp [defaultsWriters, keeps_writing]⟩

theorem field_negativeSqrt :
    Field scientificWriters "negative_sqrt" policy ScientificConfig.negativeSqrt :=
  ⟨⟨_, rfl, fun _ _ => rfl⟩, by simp [scientificWriters]⟩

theorem field_level : Field loggingWriters "default" text LoggingConfig.default :=
  ⟨⟨_, rfl, fun _ _ => rfl⟩, by simp [loggingWriters, keeps_writing]⟩

theorem field_modules : Field loggingWriters "modules" textMap LoggingConfig.modules :=
  ⟨⟨_, rfl, fun _ _ => rfl⟩, by simp [loggingWriters, keeps_writing]⟩

theorem field_version : Field settingsWriters "version" uint32 Settings.version :=
  ⟨⟨_, rfl, fun _ _ => rfl⟩, by simp [settingsWriters, keeps_writing]⟩

theorem field_defaults : Field settingsWriters "defaults" defaults Settings.defaults :=
  ⟨⟨_, rfl, fun _ _ => rfl⟩, by simp [settingsWriters, keeps_writing]⟩

theorem field_scientific : Field settingsWriters "scientific" scientific Settings.scientific :=
  ⟨⟨_, rfl, fun _ _ => rfl⟩, by simp [settingsWriters, keeps_writing]⟩

theorem field_logging : Field settingsWriters "logging" logging Settings.logging :=
  ⟨⟨_, rfl, fun _ _ => rfl⟩, by simp [settingsWriters, keeps_writing]⟩

/-! ## Tables of texts -/

/-- A table of texts keeps its keys. -/
theorem textEntries_isOk {es : List (String × Layer)}
    (h : ∀ e ∈ es, ∃ t, text e.2 = .ok t) :
    ∃ ts, textEntries es = .ok ts ∧ ts.map Prod.fst = es.map Prod.fst ∧
      ∀ k, ts.lookup k = (es.lookup k).bind fun l => (text l).toOption := by
  induction es with
  | nil => exact ⟨[], rfl, rfl, fun _ => rfl⟩
  | cons e es ih =>
    obtain ⟨k, v⟩ := e
    obtain ⟨ts, hts, hkeys, hget⟩ := ih fun e he => h e (List.mem_cons_of_mem _ he)
    obtain ⟨t, ht : text v = .ok t⟩ := h (k, v) List.mem_cons_self
    refine ⟨(k, t) :: ts, ?_, ?_, fun k' => ?_⟩
    · simp only [textEntries, ht, hts]
      rfl
    · rw [List.map_cons, List.map_cons, hkeys]
    · by_cases hk : k' = k
      · subst hk
        rw [List.lookup_cons_self, List.lookup_cons_self, Option.bind_some, ht]
        rfl
      · rw [Entries.lookup_cons_of_ne hk, Entries.lookup_cons_of_ne hk, hget]

theorem textMap_at {L : Layer} (hL : L.Ordered) (place : List String)
    (htable : ∀ l, L.at? place = some l → l.isTable = true)
    (htext : ∀ k l, L.at? (place ++ [k]) = some l → ∃ t, text l = .ok t) :
    ∃ m, valueOr textMap .empty (L.at? place) = .ok m ∧
      ∀ k, m.get? k = (L.at? (place ++ [k])).bind fun l => (text l).toOption := by
  cases hplace : L.at? place with
  | none =>
    refine ⟨.empty, rfl, fun k => ?_⟩
    rw [Layer.at?_concat_of_none hplace]
    rfl
  | some l =>
    obtain ⟨s, es, rfl⟩ := Layer.eq_table (htable l hplace)
    have hget (k : String) : L.at? (place ++ [k]) = es.lookup k :=
      Layer.at?_concat_of_table hplace k
    have hes : Entries.Ordered es := (hL.at? hplace).1
    obtain ⟨ts, hts, hkeys, hanswer⟩ := textEntries_isOk fun e he =>
      htext e.1 e.2 ((hget e.1).trans (hes.lookup_of_mem he))
    have hordered : Entries.Ordered ts := by
      refine List.pairwise_map.1 ?_
      rw [hkeys]
      exact List.pairwise_map.2 hes
    refine ⟨Dict.ofList ts, ?_, fun k => ?_⟩
    · simp only [valueOr, textMap, hts]
      rfl
    · rw [hget, ← hanswer]
      exact congrArg (List.lookup k) (Entries.ofList_of_ordered hordered)

end Extractor

/-! ## All settings -/

/-- The tables that hold the settings. -/
def groupPaths : List (List String) :=
  [[], ["defaults"], ["scientific"], ["logging"], ["logging", "modules"]]

/-- A layer that has no other value in the place of a group, and in the place of each setting none
that the setting cannot be. -/
structure Layer.Fits (L : Layer) : Prop where
  groups : ∀ place ∈ groupPaths, ∀ l, L.at? place = some l → l.isTable = true
  leaves : ∀ (x : Setting) l, L.at? x.path = some l → ∃ a, x.read l = .ok a

/-- A setting by what its place holds: its default if that is nothing. -/
def Setting.from? (x : Setting) : Option Layer → Option x.Value
  | none => x.get? {}
  | some l => (x.read l).toOption

theorem Setting.from?_of_valueOr {x : Setting} {a b : x.Value} {o : Option Layer}
    (h : Extractor.valueOr x.read a o = .ok b) (ha : x.get? {} = some a) :
    x.from? o = some b := by
  cases o with
  | none =>
    cases h
    exact ha
  | some l =>
    rw [Extractor.valueOr] at h
    rw [Setting.from?, h]
    rfl

open Extractor in
/-- **Settings are read leaf by leaf.** Every setting is what the layer holds in its place. -/
theorem settings_leaves {L : Layer} (hL : L.Ordered) (hfits : L.Fits) :
    ∃ s, Extractor.settings L = .ok s ∧ ∀ x : Setting, x.get? s = x.from? (L.at? x.path) := by
  obtain ⟨hgroups, hleaves⟩ := hfits
  have htakes {α β : Type} {read : Extractor β} {set : α → β → α} {l : Layer}
      (h : ∃ b, read l = .ok b) (a : α) : ∃ a', writing read set a l = .ok a' := by
    obtain ⟨b, hb⟩ := h
    exact ⟨set a b, writing_eq_ok.2 ⟨b, hb, rfl⟩⟩
  obtain ⟨d, hd, hdefaults⟩ := group_at hL "DefaultsConfig" defaultsWriters {}
    ["defaults"] (hgroups _ (by simp [groupPaths])) (by
      simp only [Takes, defaultsWriters, List.forall_mem_cons]
      exact ⟨fun l hl => htakes (hleaves .initialValue l hl),
        fun l hl => htakes (hleaves .sumSeed l hl),
        fun l hl => htakes (hleaves .productSeed l hl), by simp⟩)
  obtain ⟨c, hc, hscientific⟩ := group_at hL "ScientificConfig" scientificWriters {}
    ["scientific"] (hgroups _ (by simp [groupPaths])) (by
      simp only [Takes, scientificWriters, List.forall_mem_cons]
      exact ⟨fun l hl => htakes (hleaves .negativeSqrt l hl), by simp⟩)
  obtain ⟨m, hm, hmodules⟩ := textMap_at hL ["logging", "modules"]
    (hgroups _ (by simp [groupPaths])) fun k l hl => hleaves (.module k) l hl
  obtain ⟨g, hg, hlogging⟩ := group_at hL "LoggingConfig" loggingWriters {}
    ["logging"] (hgroups _ (by simp [groupPaths])) (by
      simp only [Takes, loggingWriters, List.forall_mem_cons]
      refine ⟨fun l hl => htakes (hleaves .level l hl), fun l hl => htakes ⟨m, ?_⟩, by simp⟩
      rwa [show L.at? ["logging", "modules"] = some l from hl] at hm)
  obtain ⟨s, hs, hsettings⟩ := group_at hL "Settings" settingsWriters {} []
    (hgroups _ (by simp [groupPaths])) (by
      simp only [Takes, settingsWriters, List.forall_mem_cons]
      refine ⟨fun l hl => htakes (hleaves .version l hl), fun l hl => htakes ⟨d, ?_⟩,
        fun l hl => htakes ⟨c, ?_⟩, fun l hl => htakes ⟨g, ?_⟩, by simp⟩
      · rwa [show L.at? ["defaults"] = some l from hl] at hd
      · rwa [show L.at? ["scientific"] = some l from hl] at hc
      · rwa [show L.at? ["logging"] = some l from hl] at hg)
  have hsd : s.defaults = d := Except.ok.inj ((hsettings field_defaults).symm.trans hd)
  have hsc : s.scientific = c := Except.ok.inj ((hsettings field_scientific).symm.trans hc)
  have hsg : s.logging = g := Except.ok.inj ((hsettings field_logging).symm.trans hg)
  have hgm : g.modules = m := Except.ok.inj ((hlogging field_modules).symm.trans hm)
  subst hsd hsc hsg hgm
  rw [Layer.at?_nil] at hs
  refine ⟨s, hs, fun x => Eq.symm ?_⟩
  cases x with
  | version => exact Setting.from?_of_valueOr (x := .version) (hsettings field_version) rfl
  | initialValue =>
    exact Setting.from?_of_valueOr (x := .initialValue) (hdefaults field_initialValue) rfl
  | sumSeed => exact Setting.from?_of_valueOr (x := .sumSeed) (hdefaults field_sumSeed) rfl
  | productSeed =>
    exact Setting.from?_of_valueOr (x := .productSeed) (hdefaults field_productSeed) rfl
  | negativeSqrt =>
    exact Setting.from?_of_valueOr (x := .negativeSqrt) (hscientific field_negativeSqrt) rfl
  | level => exact Setting.from?_of_valueOr (x := .level) (hlogging field_level) rfl
  | module name =>
    refine Eq.trans ?_ (hmodules name).symm
    simp only [Setting.path, List.cons_append, List.nil_append]
    cases L.at? ["logging", "modules", name] <;> rfl

end Abacus.Settings
