import Abacus.Proofs.Entries
import Abacus.Proofs.Json.Slots
import Abacus.Settings.Json

/-!
# Settings from any of their JSON texts

Settings have many texts besides the ones that are written (`Settings.WrittenAs`). The sections and
the whole are records: their fields may stand in any order and among any others, or in an array, and
what has its default may be left out. All these texts are decoded to the same settings
(`Settings.decode_written`).

The readers have defaults of their own for missing fields. That they are those of the settings is
what each of the proofs about a section comes down to.
-/

namespace Abacus

open Json

/-! ## Single values -/

namespace Json.Reader

theorem takes_int64 (n : Int64) : int64.Takes (intText n.toInt) n := by
  have hlow := n.le_toInt
  have hhigh := n.toInt_lt
  refine ⟨_, Draft.reads_intText (by omega) (by omega), ?_⟩
  rw [int64, integer_of_le _ (by omega) (by omega)]
  exact congrArg Except.ok n.ofInt_toInt

theorem takes_uint32 (n : UInt32) : uint32.Takes (intText n.toNat) n := by
  have hhigh := n.toNat_lt
  refine ⟨_, Draft.reads_intText (by omega) (by omega), ?_⟩
  rw [uint32, integer_of_le _ (by omega) (by omega)]
  exact congrArg Except.ok UInt32.ofNat_toNat

theorem takes_text {s : String} {cs : List Char} (h : Quotes s cs) : text.Takes cs s :=
  ⟨_, reads_of_quotes h, rfl⟩

theorem takes_variant {α : Type} {variants : List (String × α)} {name : String} {a : α}
    (hname : variants.lookup name = some a) {cs : List Char} (h : Quotes name cs) :
    (variant variants).Takes cs a :=
  ⟨_, reads_of_quotes h, variant_ofValue hname⟩

end Json.Reader

/-! ## Maps of texts -/

/-- A text that shows a map: its entries in any order. -/
def Dict.ShownBy (m : Dict String) (cs : List Char) : Prop :=
  ∃ (entries : List (String × String)) (fields : List (List Char × List Char)),
    entries.Perm m.toList ∧
      List.Forall₂ (fun e f => Quotes e.1 f.1 ∧ Quotes e.2 f.2) entries fields ∧
      ObjectText fields cs

theorem textEntries_of_texts (entries : List (String × String)) :
    Reader.textEntries true (entries.map fun e => (.str e.1, .str e.2)) = .ok entries := by
  induction entries with
  | nil => rfl
  | cons e entries ih =>
    rw [List.map_cons, Reader.textEntries, ih]
    rfl

theorem Dict.takes {m : Dict String} {cs : List Char} (h : m.ShownBy cs) :
    Reader.textMap.Takes cs m := by
  obtain ⟨entries, fields, hperm, hfields, hcs⟩ := h
  have hreads : List.Forall₂ ReadsField fields
      (entries.map fun e => ((.str e.1, .str e.2) : Draft × Draft)) := by
    rw [List.forall₂_map_right_iff]
    exact (hfields.imp fun _ _ h => ⟨reads_of_quotes h.1, rfl, reads_of_quotes h.2⟩).flip
  refine ⟨_, .object hcs hreads, ?_⟩
  rw [Reader.textMap, textEntries_of_texts]
  exact congrArg Except.ok (Dict.ext_entries (Entries.ofList_of_perm hperm m.ordered))

/-! ## Sections -/

namespace DefaultsConfig

/-- A seed under its name. -/
def seedSlot (name : String) (n default : Int64) : Slot where
  name := name
  Shown cs := cs = intText n.toInt
  Spare := n = default

def slots (c : DefaultsConfig) : List Slot :=
  let absent : DefaultsConfig := {}
  [seedSlot "initial_value" c.initialValue absent.initialValue,
    seedSlot "sum_seed" c.sumSeed absent.sumSeed,
    seedSlot "product_seed" c.productSeed absent.productSeed]

theorem nodup_slots (c : DefaultsConfig) : (c.slots.map Slot.name).Nodup :=
  show ["initial_value", "sum_seed", "product_seed"].Nodup by decide

theorem takes_seedSlot (name : String) (n default : Int64) (cs : List Char)
    (h : (seedSlot name n default).Shown cs) : Reader.int64.Takes cs n := by
  cases h
  exact Reader.takes_int64 n

theorem takes {c : DefaultsConfig} {cs : List Char} (h : RecordText c.slots cs) :
    read.Takes cs c := by
  have hfits : List.Forall₂ Field.Fits shape.fields c.slots :=
    .cons (fits_check rfl (takes_seedSlot _ _ _))
      (.cons (fits_check rfl (takes_seedSlot _ _ _))
        (.cons (fits_check rfl (takes_seedSlot _ _ _)) .nil))
  refine takes_record hfits rfl (nodup_slots _) (fun values hvalues => ?_) h
  simp only [slots, List.forall_mem_cons] at hvalues
  obtain ⟨hinitial, hsum, hproduct, -⟩ := hvalues
  have hinitial' : values.getD "initial_value" Reader.int64 0 = .ok c.initialValue :=
    hinitial.getD (takes_seedSlot _ _ _) id
  have hsum' : values.getD "sum_seed" Reader.int64 Aggregate.sumSeed = .ok c.sumSeed :=
    hsum.getD (takes_seedSlot _ _ _) id
  have hproduct' : values.getD "product_seed" Reader.int64 Aggregate.productSeed =
      .ok c.productSeed := hproduct.getD (takes_seedSlot _ _ _) id
  simp only [hinitial', hsum', hproduct']
  rfl

end DefaultsConfig

namespace ScientificConfig

def slots (c : ScientificConfig) : List Slot :=
  let absent : ScientificConfig := {}
  [⟨"negative_sqrt", Quotes c.negativeSqrt.name, c.negativeSqrt = absent.negativeSqrt⟩]

theorem nodup_slots (c : ScientificConfig) : (c.slots.map Slot.name).Nodup :=
  List.nodup_singleton _

theorem takes {c : ScientificConfig} {cs : List Char} (h : RecordText c.slots cs) :
    read.Takes cs c := by
  have hpolicy (cs : List Char) (hcs : Quotes c.negativeSqrt.name cs) :
      (Reader.variant SqrtPolicy.variants).Takes cs c.negativeSqrt :=
    Reader.takes_variant (by cases c.negativeSqrt <;> rfl) hcs
  have hfits : List.Forall₂ Field.Fits shape.fields c.slots := .cons (fits_check rfl hpolicy) .nil
  refine takes_record hfits rfl (nodup_slots _) (fun values hvalues => ?_) h
  have hread : values.getD "negative_sqrt" (Reader.variant SqrtPolicy.variants) .error =
      .ok c.negativeSqrt := (hvalues _ List.mem_cons_self).getD hpolicy id
  simp only [hread]
  rfl

end ScientificConfig

namespace LoggingConfig

def slots (c : LoggingConfig) : List Slot :=
  let absent : LoggingConfig := {}
  [⟨"default", Quotes c.default, c.default = absent.default⟩,
    ⟨"modules", c.modules.ShownBy, c.modules = absent.modules⟩]

theorem nodup_slots (c : LoggingConfig) : (c.slots.map Slot.name).Nodup :=
  show ["default", "modules"].Nodup by decide

theorem takes {c : LoggingConfig} {cs : List Char} (h : RecordText c.slots cs) :
    read.Takes cs c := by
  have htext (cs : List Char) (hcs : Quotes c.default cs) : Reader.text.Takes cs c.default :=
    Reader.takes_text hcs
  have hmap (cs : List Char) (hcs : c.modules.ShownBy cs) : Reader.textMap.Takes cs c.modules :=
    Dict.takes hcs
  have hfits : List.Forall₂ Field.Fits shape.fields c.slots :=
    .cons (fits_check rfl htext) (.cons (fits_check rfl hmap) .nil)
  refine takes_record hfits rfl (nodup_slots _) (fun values hvalues => ?_) h
  simp only [slots, List.forall_mem_cons] at hvalues
  obtain ⟨hdefault, hmodules, -⟩ := hvalues
  have hdefault' : values.getD "default" Reader.text "warn" = .ok c.default :=
    hdefault.getD htext id
  have hmodules' : values.getD "modules" Reader.textMap .empty = .ok c.modules :=
    hmodules.getD hmap id
  simp only [hdefault', hmodules']
  rfl

end LoggingConfig

/-! ## Settings -/

namespace Settings

def slots (s : Settings) : List Slot :=
  let absent : Settings := {}
  [⟨"version", (· = intText s.version.toNat), s.version = absent.version⟩,
    ⟨"defaults", RecordText s.defaults.slots, s.defaults = absent.defaults⟩,
    ⟨"scientific", RecordText s.scientific.slots, s.scientific = absent.scientific⟩,
    ⟨"logging", RecordText s.logging.slots, s.logging = absent.logging⟩]

theorem nodup_slots (s : Settings) : (s.slots.map Slot.name).Nodup :=
  show ["version", "defaults", "scientific", "logging"].Nodup by decide

theorem takes {s : Settings} {cs : List Char} (h : RecordText s.slots cs) : read.Takes cs s := by
  have hversion (cs : List Char) (hcs : cs = intText s.version.toNat) :
      Reader.uint32.Takes cs s.version := by
    subst hcs
    exact Reader.takes_uint32 s.version
  have hdefaults (cs : List Char) (hcs : RecordText s.defaults.slots cs) :
      DefaultsConfig.read.Takes cs s.defaults := DefaultsConfig.takes hcs
  have hscientific (cs : List Char) (hcs : RecordText s.scientific.slots cs) :
      ScientificConfig.read.Takes cs s.scientific := ScientificConfig.takes hcs
  have hlogging (cs : List Char) (hcs : RecordText s.logging.slots cs) :
      LoggingConfig.read.Takes cs s.logging := LoggingConfig.takes hcs
  have hfits : List.Forall₂ Field.Fits shape.fields s.slots :=
    .cons (fits_check rfl hversion) (.cons (fits_check rfl hdefaults)
      (.cons (fits_check rfl hscientific) (.cons (fits_check rfl hlogging) .nil)))
  refine takes_record hfits rfl (nodup_slots _) (fun values hvalues => ?_) h
  simp only [slots, List.forall_mem_cons] at hvalues
  obtain ⟨hv, hd, hs, hl, -⟩ := hvalues
  have hv' : values.getD "version" Reader.uint32 1 = .ok s.version := hv.getD hversion id
  have hd' : values.getD "defaults" DefaultsConfig.read {} = .ok s.defaults := hd.getD hdefaults id
  have hs' : values.getD "scientific" ScientificConfig.read {} = .ok s.scientific :=
    hs.getD hscientific id
  have hl' : values.getD "logging" LoggingConfig.read {} = .ok s.logging := hl.getD hlogging id
  simp only [hv', hd', hs', hl']
  rfl

end Settings

/-! ## The texts that are written -/

section Layout

variable {text : Nat → Value → List Char} (hlayout : IsLayout text) (level : Nat)

include hlayout

theorem DefaultsConfig.recordText_toJson (c : DefaultsConfig) :
    RecordText c.slots (text level c.toJson) :=
  recordText_fields hlayout level
    (.cons ⟨rfl, hlayout.int _ _⟩ (.cons ⟨rfl, hlayout.int _ _⟩ (.cons ⟨rfl, hlayout.int _ _⟩ .nil)))
    c.nodup_slots

theorem ScientificConfig.recordText_toJson (c : ScientificConfig) :
    RecordText c.slots (text level c.toJson) := by
  have hpolicy : Quotes c.negativeSqrt.name (text (level + 1) (.str c.negativeSqrt.name)) := by
    rw [hlayout.str]
    exact quotes_stringText _
  exact recordText_fields hlayout level (.cons ⟨rfl, hpolicy⟩ .nil) c.nodup_slots

theorem Dict.shownBy_toJson (m : Dict String) :
    m.ShownBy (text level (.obj (m.toList.map fun (k, v) => (k, .str v)))) := by
  refine ⟨m.toList, _, .refl _, ?_, hlayout.obj level _⟩
  rw [List.map_map, List.forall₂_map_right_iff, List.forall₂_same]
  intro e he
  refine ⟨quotes_stringText e.1, ?_⟩
  show Quotes e.2 (text (level + 1) (.str e.2))
  rw [hlayout.str]
  exact quotes_stringText e.2

theorem LoggingConfig.recordText_toJson (c : LoggingConfig) :
    RecordText c.slots (text level c.toJson) := by
  have hdefault : Quotes c.default (text (level + 1) (.str c.default)) := by
    rw [hlayout.str]
    exact quotes_stringText _
  exact recordText_fields hlayout level
    (.cons ⟨rfl, hdefault⟩ (.cons ⟨rfl, c.modules.shownBy_toJson hlayout (level + 1)⟩ .nil))
    c.nodup_slots

theorem Settings.recordText_toJson (s : Settings) : RecordText s.slots (text level s.toJson) :=
  recordText_fields hlayout level
    (.cons ⟨rfl, hlayout.int _ _⟩
      (.cons ⟨rfl, s.defaults.recordText_toJson hlayout (level + 1)⟩
        (.cons ⟨rfl, s.scientific.recordText_toJson hlayout (level + 1)⟩
          (.cons ⟨rfl, s.logging.recordText_toJson hlayout (level + 1)⟩ .nil))))
    s.nodup_slots

end Layout

namespace Settings

/-- A text of the settings, with blanks around it. -/
def WrittenAs (s : Settings) (text : String) : Prop :=
  ∃ b cs b', Blank b ∧ Blank b' ∧ RecordText s.slots cs ∧ text.toList = b ++ (cs ++ b')

theorem writtenAs_of_recordText {s : Settings} {cs : List Char} (h : RecordText s.slots cs) :
    s.WrittenAs (String.ofList cs) :=
  ⟨[], cs, [], blank_nil, blank_nil, h, by rw [String.toList_ofList, List.append_nil]; rfl⟩

/-- **Settings are decoded from every one of their texts**, and what is written in either layout is
one of these. -/
theorem decode_written (s : Settings) :
    s.WrittenAs s.toJson.compact ∧ s.WrittenAs s.toJson.pretty ∧
      ∀ text, s.WrittenAs text → decode read text = .ok s := by
  refine ⟨writtenAs_of_recordText (s.recordText_toJson isLayout_compact 0),
    writtenAs_of_recordText (s.recordText_toJson isLayout_pretty 0), fun text h => ?_⟩
  obtain ⟨b, cs, b', hb, hb', hcs, htext⟩ := h
  exact (takes hcs).decode hb hb' htext

/-- A value of no use: a number out of reach and half a surrogate pair. -/
def unusable : List Char := "[1e999,\"\\ud800\"]".toList

theorem wellFormed_unusable : WellFormed unusable := by
  have hexponent : ExponentText ('e' :: ([] ++ ['9', '9', '9'])) :=
    .power (.inl rfl) (.inl rfl) ⟨List.all_eq_true.1 rfl, List.cons_ne_nil _ _⟩
  have hnumber : NumberText (['1'] ++ ([] ++ ('e' :: ([] ++ ['9', '9', '9'])))) :=
    .positive (.mk ⟨List.all_eq_true.1 rfl, List.cons_ne_nil _ _⟩ nofun .absent hexponent)
  have hbody : Body ['\\', 'u', 'd', '8', '0', '0'] :=
    .unicode (.inr (.inl (by decide))) (.inl (by decide)) (.inl (by decide)) (.inl (by decide)) .nil
  have hitems : ArrayText ["1e999".toList, "\"\\ud800\"".toList] unusable :=
    .cons blank_nil (.cons blank_nil blank_nil (.nil blank_nil))
  exact .array (List.forall_mem_cons.2 ⟨.number hnumber, List.forall_mem_singleton.2
    (.text (.mk hbody))⟩) hitems

/-- Two seeds. -/
def seeded : Settings := { defaults := { initialValue := 7, sumSeed := -8 } }

/-- Two of the sections and the version are left out, an unknown field is put in, and a section is
an array without its last item. -/
theorem decode_written_rearranged :
    decode read "\x7b\"x\":[1e999,\"\\ud800\"], \"defaults\":[7,-8]\n\x7d" = .ok seeded := by
  have hdefaults : RecordText seeded.defaults.slots "[7,-8]".toList := by
    have hitems : ArrayText [intText 7, intText (-8)] "[7,-8]".toList :=
      .cons blank_nil (.cons blank_nil blank_nil (.nil blank_nil))
    exact .array rfl (.cons rfl (.cons rfl .nil)) (List.forall_mem_singleton.2 rfl) hitems
  have hshown : ShownIn seeded.slots
      [⟨"x", stringText "x", unusable⟩, ⟨"defaults", stringText "defaults", "[7,-8]".toList⟩] := by
    constructor
    · exact List.forall_mem_cons.2
        ⟨quotes_stringText _, List.forall_mem_singleton.2 (quotes_stringText _)⟩
    · simpa [slots, seeded] using hdefaults
    · simpa [slots, seeded] using wellFormed_unusable
    · decide
    · simp [slots, seeded]
  have hspace : Blank [' '] := by decide
  have hnewline : Blank ['\n'] := by decide
  refine (decode_written seeded).2.2 _ ⟨[], _, [], blank_nil, blank_nil, .object hshown
    ⟨_, .cons (.mk blank_nil blank_nil) (.cons (.mk blank_nil blank_nil) .nil),
      .cons blank_nil (.cons blank_nil hspace (.nil hnewline))⟩, ?_⟩
  rfl

end Settings

end Abacus
