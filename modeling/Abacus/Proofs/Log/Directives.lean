import Abacus.Proofs.Entries
import Abacus.Proofs.Text.Blanks
import Abacus.Proofs.Text.Bytes
import Abacus.Settings.Basic
import Mathlib.Data.List.Nodup

/-!
# The directives of a configuration

The directives of a configuration are the level of all targets and then every override once, in the
order of the bytes of the names. Where the overrides come from a map without an order, this order is
that of a sort, and it does not matter in which order they are taken from the map or were put there
(`mergeSort_of_perm`).

As long as no part has a separator in it, the directives can be taken apart again: at the commas,
and then at the first equals sign of each piece (`pieces_listing`). So different configurations have
different directives.
-/

namespace Abacus.LoggingConfig

open Text (bytes bytes_le_iff bytes_lt)

/-! ## Listings -/

/-- What is written for an override. -/
def overrideText (e : String × String) : List Char := e.1.toList ++ '=' :: e.2.toList

/-- A level and overrides in the order of the list, each behind a comma. -/
def listing (level : String) (overrides : List (String × String)) : List Char :=
  level.toList ++ overrides.flatMap fun e => ',' :: overrideText e

theorem toList_directives (c : LoggingConfig) :
    c.directives.toList = listing c.default c.modules.toList := by
  rw [directives, listing]
  generalize c.default = level
  induction c.modules.toList generalizing level with
  | nil => simp
  | cons e overrides ih =>
    rw [List.foldl_cons, ih, List.flatMap_cons]
    simp [overrideText]

/-! ## The order -/

/-- The order of overrides by the bytes of their names. -/
def comesFirst (a b : String × String) : Bool := decide (bytes a.1 ≤ bytes b.1)

theorem comesFirst_iff {a b : String × String} : comesFirst a b = true ↔ a.1 ≤ b.1 := by
  rw [comesFirst, decide_eq_true_eq, bytes_le_iff]

/-- However the overrides are arranged, sorting puts them in the order of the dictionary. -/
theorem mergeSort_of_perm {d : Dict String} {overrides : List (String × String)}
    (h : overrides.Perm d.toList) : overrides.mergeSort comesFirst = d.toList := by
  have hperm := (List.mergeSort_perm overrides comesFirst).trans h
  have hsorted : (overrides.mergeSort comesFirst).Pairwise fun a b => comesFirst a b = true := by
    refine List.pairwise_mergeSort (fun a b c hab hbc => ?_) (fun a b => ?_) overrides
    · rw [comesFirst_iff] at hab hbc ⊢
      exact String.le_trans hab hbc
    · rw [Bool.or_eq_true, comesFirst_iff, comesFirst_iff]
      exact String.le_total a.1 b.1
  have hordered : d.toList.Pairwise fun a b => comesFirst a b = true :=
    d.ordered.imp fun hlt => comesFirst_iff.2 (String.not_lt.1 (String.lt_asymm hlt))
  refine List.Perm.eq_of_pairwise (fun a b ha hb hab hba => ?_) hsorted hordered hperm
  have hname : a.1 = b.1 := String.le_antisymm (comesFirst_iff.1 hab) (comesFirst_iff.1 hba)
  exact List.inj_on_of_nodup_map d.ordered.nodup (hperm.mem_iff.1 ha) hb hname

/-! ## Separators -/

/-- No part of the configuration has a separator in it that would end the part. -/
structure Separable (c : LoggingConfig) : Prop where
  default : ',' ∉ c.default.toList
  name : ∀ e ∈ c.modules.toList, ',' ∉ e.1.toList ∧ '=' ∉ e.1.toList
  level : ∀ e ∈ c.modules.toList, ',' ∉ e.2.toList

instance (c : LoggingConfig) : Decidable c.Separable :=
  decidable_of_iff (',' ∉ c.default.toList ∧
    (∀ e ∈ c.modules.toList, ',' ∉ e.1.toList ∧ '=' ∉ e.1.toList) ∧
    ∀ e ∈ c.modules.toList, ',' ∉ e.2.toList)
    ⟨fun ⟨hdefault, hname, hlevel⟩ => ⟨hdefault, hname, hlevel⟩,
      fun h => ⟨h.default, h.name, h.level⟩⟩

/-- The commas of a listing are those in front of the overrides. -/
theorem pieces_listing {level : String} {overrides : List (String × String)}
    (hlevel : ',' ∉ level.toList) (h : ∀ e ∈ overrides, ',' ∉ overrideText e) :
    Text.pieces ',' (listing level overrides) = level.toList :: overrides.map overrideText := by
  rw [listing]
  generalize level.toList = piece at *
  induction overrides generalizing piece with
  | nil =>
    rw [List.flatMap_nil, List.append_nil]
    exact Text.pieces_of_not_mem hlevel
  | cons e overrides ih =>
    obtain ⟨he, hoverrides⟩ := List.forall_mem_cons.1 h
    rw [List.flatMap_cons, List.cons_append, Text.pieces_append hlevel, ih hoverrides _ he,
      List.map_cons]

theorem Separable.not_mem_overrideText {c : LoggingConfig} (h : c.Separable) :
    ∀ e ∈ c.modules.toList, ',' ∉ overrideText e := by
  intro e he hmem
  rcases List.mem_append.1 hmem with hname | hlevel
  · exact (h.name e he).1 hname
  · exact h.level e he ((List.mem_cons.1 hlevel).resolve_left (by decide))

/-- An override is cut at its first equals sign. -/
theorem cut_overrideText {e : String × String} (h : '=' ∉ e.1.toList) :
    Text.cut '=' (overrideText e) = some (e.1.toList, e.2.toList) :=
  Text.cut_eq_some_iff.2 ⟨rfl, h⟩

/-- Directives can be taken apart again. -/
theorem Separable.eq_of_directives {c c' : LoggingConfig} (h : c.Separable) (h' : c'.Separable)
    (heq : c.directives = c'.directives) : c = c' := by
  have hlisting : listing c.default c.modules.toList = listing c'.default c'.modules.toList := by
    rw [← toList_directives, ← toList_directives, heq]
  have hpieces := congrArg (Text.pieces ',') hlisting
  rw [pieces_listing h.default h.not_mem_overrideText,
    pieces_listing h'.default h'.not_mem_overrideText, List.cons.injEq] at hpieces
  obtain ⟨hdefault, hoverrides⟩ := hpieces
  have hcut : ∀ d : LoggingConfig, d.Separable →
      (d.modules.toList.map overrideText).map (Text.cut '=') =
        d.modules.toList.map fun e => some (e.1.toList, e.2.toList) := by
    intro d hd
    rw [List.map_map]
    exact List.map_congr_left fun e he => cut_overrideText (hd.name e he).2
  have hentries := congrArg (List.map (Text.cut '=')) hoverrides
  rw [hcut c h, hcut c' h'] at hentries
  have hinjective : Function.Injective fun e : String × String =>
      some (e.1.toList, e.2.toList) := by
    rintro ⟨a, b⟩ ⟨a', b'⟩ hab
    rw [Option.some.injEq, Prod.mk.injEq, String.toList_inj, String.toList_inj] at hab
    exact Prod.ext hab.1 hab.2
  rw [LoggingConfig.mk.injEq]
  exact ⟨String.toList_inj.1 hdefault, Dict.ext_entries (hinjective.list_map hentries)⟩

/-! ## The directives -/

/-- **The directives list every override once, in the order of the bytes of the names, and in no
other way**, whatever order the overrides are in when they are taken from a map or put there.
Without separators in their parts they determine the configuration. -/
theorem directives_canonical (c : LoggingConfig) :
    (∃ overrides, c.directives.toList = listing c.default overrides ∧
      overrides.Pairwise (fun a b => bytes a.1 < bytes b.1) ∧ overrides.Nodup ∧
      ∀ name level, (name, level) ∈ overrides ↔ c.modules.get? name = some level) ∧
    (∀ overrides : List (String × String), overrides.Perm c.modules.toList →
      listing c.default (overrides.mergeSort comesFirst) = c.directives.toList ∧
      directives ⟨c.default, .ofList overrides⟩ = c.directives) ∧
    (c.Separable → ∀ c' : LoggingConfig, c'.Separable → c.directives = c'.directives → c = c') := by
  have hnodup := c.modules.ordered.nodup
  refine ⟨⟨c.modules.toList, c.toList_directives, c.modules.ordered.imp bytes_lt, hnodup.of_map _,
    fun name level => (Entries.lookup_eq_some_iff_mem hnodup).symm⟩, fun overrides h => ⟨?_, ?_⟩,
    fun h c' h' heq => h.eq_of_directives h' heq⟩
  · rw [mergeSort_of_perm h, toList_directives]
  · have hmodules : Dict.ofList overrides = c.modules :=
      Dict.ext_entries (Entries.ofList_of_perm h c.modules.ordered)
    rw [hmodules]

/-- With a separator in a part, two configurations can have the same directives. -/
example : directives ⟨"warn,cli=info", .empty⟩ = directives ⟨"warn", .ofList [("cli", "info")]⟩ := by
  decide

end Abacus.LoggingConfig
