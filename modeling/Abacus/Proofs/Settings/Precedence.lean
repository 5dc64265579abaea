import Abacus.Command.Outcome
import Abacus.Proofs.Settings.Environment
import Abacus.Proofs.Settings.Leaves
import Abacus.Proofs.Toml.Ordered
import Abacus.Settings.Load
import Mathlib

/-!
# Which layer a setting comes from

Settings are read from one layer that is merged of the defaults, the file and the environment. A
setting is what the environment says, or else the file, or else its default
(`loadFrom_chosen`), if every layer fits: it has tables where groups stand and a value that can be
read wherever it has one for a setting.

A layer that fits hides the one below it at a setting's path and nowhere else
(`Layer.Fits.at?_merge`), and merging keeps the fit (`Layer.Fits.merge`). Every variable is a layer
of its own, so the environment needs no argument but this one.
-/

namespace Abacus.Settings

/-! ## Layers that fit -/

namespace Setting

/-- A table stands for no single setting. -/
theorem isTable_of_read {x : Setting} {l : Layer} {a : x.Value} (h : x.read l = .ok a) :
    l.isTable = false := by
  cases l with
  | leaf | list => rfl
  | table s es =>
    cases x with
    | version | initialValue | sumSeed | productSeed | level | module => cases h
    | negativeSqrt =>
      rcases es with - | ⟨⟨name, v⟩, es⟩
      · cases h
      · simp only [read, Extractor.policy] at h
        cases hp : Extractor.policyOfName s name <;> rw [hp] at h <;> cases h

/-- What stands above a setting is a group. -/
theorem mem_groupPaths {x : Setting} {above below : List String} {k : String}
    (h : x.path = above ++ k :: below) : above ∈ groupPaths := by
  cases x <;>
    rcases above with - | ⟨a, - | ⟨b, - | ⟨c, above⟩⟩⟩ <;>
    simp_all [path, groupPaths]

end Setting

/-- What stands above a group is a group. -/
theorem mem_groupPaths_of_append {above below : List String} {k : String}
    (h : above ++ k :: below ∈ groupPaths) : above ∈ groupPaths := by
  rcases above with - | ⟨a, - | ⟨b, above⟩⟩ <;> simp_all [groupPaths]

namespace Layer

theorem Fits.opens {L : Layer} (h : L.Fits) (x : Setting) : L.Opens x.path :=
  opens_of_forall_isTable fun above _ _ heq v hv =>
    h.groups above (Setting.mem_groupPaths heq) v hv

theorem Fits.opens_group {L : Layer} (h : L.Fits) {place : List String}
    (hplace : place ∈ groupPaths) : L.Opens place :=
  opens_of_forall_isTable fun above _ _ heq v hv =>
    h.groups above (mem_groupPaths_of_append (heq ▸ hplace)) v hv

theorem Fits.isTable_eq_false {L v : Layer} (h : L.Fits) {x : Setting}
    (hv : L.at? x.path = some v) : v.isTable = false := by
  obtain ⟨a, ha⟩ := h.leaves x v hv
  exact Setting.isTable_of_read ha

/-- A setting comes from the upper layer, or else from the lower one. -/
theorem Fits.at?_merge {upper : Layer} (hf : upper.Fits) (hu : upper.Ordered) (lower : Layer)
    (x : Setting) :
    (lower.merge upper).at? x.path = (upper.at? x.path).or (lower.at? x.path) :=
  at?_merge_of_value hu (hf.opens x) (fun _ hv => hf.isTable_eq_false hv) lower

theorem Fits.merge {lower upper : Layer} (hl : lower.Fits) (hf : upper.Fits)
    (hu : upper.Ordered) : (lower.merge upper).Fits where
  groups place hplace :=
    isTable_merge hu (hf.opens_group hplace) (hl.groups place hplace) (hf.groups place hplace)
  leaves x l h := by
    rw [hf.at?_merge hu] at h
    rcases Option.or_eq_some_iff.1 h with h | ⟨-, h⟩
    · exact hf.leaves x l h
    · exact hl.leaves x l h

/-! ## The built-in defaults -/

theorem ordered_ofSettings (s : Settings) : (ofSettings s).Ordered := by
  refine ordered_ofList _ ?_
  simp only [List.forall_mem_cons]
  refine ⟨trivial, ordered_ofList _ ?_, ordered_ofList _ ?_, ordered_ofList _ ?_, by simp⟩
  · simp [Ordered]
  · simp [Ordered]
  · simp only [List.forall_mem_cons]
    refine ⟨trivial, ordered_ofList _ fun e he => ?_, by simp⟩
    obtain ⟨e', -, rfl⟩ := List.mem_map.1 he
    trivial

theorem ofSettings_default : ofSettings {} = .table .builtin [
    ("defaults", .table .builtin [("initial_value", .leaf .builtin (.signed 0)),
      ("product_seed", .leaf .builtin (.signed 1)), ("sum_seed", .leaf .builtin (.signed 0))]),
    ("logging", .table .builtin [("default", .leaf .builtin (.text "warn")),
      ("modules", .table .builtin [])]),
    ("scientific", .table .builtin [("negative_sqrt", .leaf .builtin (.text "error"))]),
    ("version", .leaf .builtin (.unsigned 1))] := by
  rfl

/-- The defaults say of every setting what it is by default. -/
theorem from?_default (x : Setting) : x.from? ((ofSettings {}).at? x.path) = x.get? {} := by
  rw [ofSettings_default]
  cases x <;> rfl

theorem fits_default : (ofSettings {}).Fits where
  groups place hplace l h := by
    rw [ofSettings_default] at h
    simp only [groupPaths, List.mem_cons, List.not_mem_nil, or_false] at hplace
    rcases hplace with rfl | rfl | rfl | rfl | rfl <;> cases h <;> rfl
  leaves x l h := by
    rw [ofSettings_default] at h
    cases x <;> cases h <;> exact ⟨_, rfl⟩

end Layer

/-- A layer that says nothing fits. -/
theorem Layer.fits_empty (src : Source) : (Layer.table src []).Fits where
  groups place hplace l hl := by
    cases place with
    | nil =>
      rw [Layer.at?_nil] at hl
      cases hl
      rfl
    | cons k ks => cases hl
  leaves x l hl := by cases x <;> cases hl

/-! ## The environment -/

namespace Environment

/-- An environment fits if each of its variables does. -/
def Fits (environment : List (String × String)) : Prop :=
  ∀ v ∈ environment, ∀ l, layerOf? v = some l → l.Fits

/-- A variable without a path is no layer. -/
theorem layerOf?_of_path? {v : String × String} (h : path? v.1 = none) : layerOf? v = none := by
  rw [layerOf?, h]
  rfl

/-- An environment that says nothing fits. -/
theorem fits_of_silent {environment : List (String × String)}
    (h : ∀ v ∈ environment, path? v.1 = none) : Fits environment := by
  intro v hv l hl
  rw [layerOf?_of_path? (h v hv)] at hl
  cases hl

theorem given?_of_silent {environment : List (String × String)}
    (h : ∀ v ∈ environment, path? v.1 = none) (path : List String) :
    given? environment path = none :=
  List.findSome?_eq_none_iff.2 fun v hv => by
    rw [layerOf?_of_path? (h v (List.mem_reverse.1 hv))]
    rfl

theorem fits_layer {environment : List (String × String)} (h : Fits environment) :
    (layer environment).Fits :=
  layer_induction (Layer.fits_empty .environment) fun v hv l hl _ hacc =>
    hacc.merge (h v hv l hl) (ordered_layerOf? hl)

theorem at?_layer_of_fits {environment : List (String × String)} (h : Fits environment)
    (x : Setting) : (layer environment).at? x.path = given? environment x.path := by
  have hne : x.path ≠ [] := by cases x <;> exact List.cons_ne_nil _ _
  exact at?_layer hne (fun v hv l hl => (h v hv l hl).opens x)
    fun v hv l hl w hw => (h v hv l hl).isTable_eq_false hw

end Environment

/-! ## The file -/

namespace Layer

theorem ofTomlEntries_eq (s : Source) (es : List (String × Toml.Value)) :
    ofTomlEntries s es = es.map fun e => (e.1, ofToml s e.2) := by
  induction es with
  | nil => rfl
  | cons e es ih => rw [ofTomlEntries, ih, List.map_cons]

mutual

theorem ordered_ofToml (s : Source) : (v : Toml.Value) → v.Ordered → (ofToml s v).Ordered
  | .string _, _ | .integer _, _ | .float _, _ | .boolean _, _ | .array _, _ => by
    rw [ofToml]
    trivial
  | .datetime t, _ => by
    rw [ofToml]
    exact ⟨List.pairwise_singleton _ _, trivial, trivial⟩
  | .table es, h => by
    rw [ofToml]
    refine ⟨?_, orderedEntries_ofToml s es h.2⟩
    rw [ofTomlEntries_eq]
    exact List.pairwise_map.2 h.1

theorem orderedEntries_ofToml (s : Source) : (es : List (String × Toml.Value)) →
    Toml.Value.OrderedEntries es → OrderedEntries (ofTomlEntries s es)
  | [], _ => trivial
  | (_, v) :: rest, h => by
    rw [ofTomlEntries]
    exact ⟨ordered_ofToml s v h.1, orderedEntries_ofToml s rest h.2⟩

end

end Layer

theorem ordered_fileLayer {w : Workspace} {p : Path} {file : Layer}
    (h : fileLayer w p = .ok file) : file.Ordered := by
  rw [fileLayer] at h
  split at h
  next =>
    cases h
    exact ⟨List.Pairwise.nil, trivial⟩
  next =>
    split at h
    next => cases h
    next entries hparse =>
      cases h
      exact Layer.ordered_ofToml _ (.table entries) (Toml.ordered_of_parse? hparse)

/-! ## All layers -/

/-- What a setting is: what the environment says, or else the file, or else its default. -/
def Setting.chosen? (x : Setting) (environment : List (String × String)) (file : Layer) :
    Option x.Value :=
  x.from? ((Environment.given? environment x.path).or (file.at? x.path))

theorem layers_leaves {file : Layer} (hfile : file.Ordered) (hfits : file.Fits)
    {environment : List (String × String)} (henv : Environment.Fits environment) :
    ∃ s, Extractor.settings (layers file environment) = .ok s ∧
      ∀ x : Setting, x.get? s = x.chosen? environment file := by
  have hlow := Layer.fits_default.merge hfits hfile
  have henvFits := Environment.fits_layer henv
  have henvOrdered := Environment.ordered_layer environment
  have hordered : (layers file environment).Ordered :=
    Layer.ordered_merge (Layer.ordered_merge (Layer.ordered_ofSettings {}) file hfile) _ henvOrdered
  obtain ⟨s, hs, hleaves⟩ := settings_leaves hordered (hlow.merge henvFits henvOrdered)
  refine ⟨s, hs, fun x => (hleaves x).trans ?_⟩
  rw [layers, henvFits.at?_merge henvOrdered, hfits.at?_merge hfile,
    Environment.at?_layer_of_fits henv, Setting.chosen?]
  cases Environment.given? environment x.path with
  | some l => rfl
  | none =>
    cases file.at? x.path with
    | some l => rfl
    | none => exact Layer.from?_default x

/-- Settings that have every leaf from the highest layer that says it, and the commands that start
from them. -/
structure Chosen (environment : List (String × String)) (file : Layer) (s : Settings) : Prop where
  /-- No leaf depends on what is said of another one. -/
  leaf : ∀ x : Setting, x.get? s = x.chosen? environment file
  /-- A variable that alone speaks of a setting decides it. -/
  said : ∀ (x : Setting) text, Environment.OnlySays environment x.path text →
    x.get? s = (x.read (Environment.value text)).toOption
  sum : ∀ numbers initial tree here, ∃ seed : Int64,
    initial.or (Setting.sumSeed.chosen? environment file) = some seed ∧
      (Command.sum numbers initial).execute s tree here =
        .ok (Aggregate.answer numbers seed (Aggregate.sum numbers (some seed)), tree)
  product : ∀ numbers initial tree here, ∃ seed : Int64,
    initial.or (Setting.productSeed.chosen? environment file) = some seed ∧
      (Command.product numbers initial).execute s tree here =
        .ok (Aggregate.answer numbers seed (Aggregate.product numbers (some seed)), tree)
  run : ∀ variant initial operations tree here, ∃ seed : Int64,
    initial.or (Setting.initialValue.chosen? environment file) = some seed ∧
      (Command.run variant initial operations).execute s tree here =
        .ok (Script.answer variant seed s.scientific.negativeSqrt operations, tree)

/-- A command starts from its own value, or else from its setting. -/
theorem or_eq_getD {initial chosen : Option Int64} {seed : Int64} (h : some seed = chosen) :
    initial.or chosen = some (initial.getD seed) := by
  subst h
  cases initial <;> rfl

theorem chosen_of_leaves {environment : List (String × String)} {file : Layer} {s : Settings}
    (h : ∀ x : Setting, x.get? s = x.chosen? environment file) : Chosen environment file s where
  leaf := h
  said x text honly := by
    rw [h x, Setting.chosen?, Environment.given?_of_onlySays honly]
    rfl
  sum numbers initial tree here := ⟨_, or_eq_getD (h .sumSeed), rfl⟩
  product numbers initial tree here := ⟨_, or_eq_getD (h .productSeed), rfl⟩
  run variant initial operations tree here := ⟨_, or_eq_getD (h .initialValue), rfl⟩

/-- **Every setting is what the environment says, or else the file, or else its default.** -/
theorem loadFrom_chosen {w : Workspace} {p : Path} {file : Layer}
    (hfile : fileLayer w p = .ok file) (hfits : file.Fits)
    (henv : Environment.Fits w.environment) :
    (∃ s, loadFrom w p = .ok s ∧ Chosen w.environment file s) ∧
      (∀ text n, Text.readInt64 (Text.trim text.toList) = .ok n →
        Extractor.int64 (Environment.value text) = .ok n) ∧
      ∀ text n, Text.readInteger 0 0xFFFFFFFF (Text.trim text.toList) = .ok n →
        Extractor.uint32 (Environment.value text) = .ok n.toNat.toUInt32 := by
  obtain ⟨s, hs, hleaves⟩ := layers_leaves (ordered_fileLayer hfile) hfits henv
  refine ⟨⟨s, ?_, chosen_of_leaves hleaves⟩, fun _ _ => Environment.int64_value,
    fun _ _ => Environment.uint32_value⟩
  rw [loadFrom, hfile]
  show (Extractor.settings (layers file w.environment)).mapError LoadError.fault = .ok s
  rw [hs]
  rfl

/-- A file that says something, and something else that nobody asks for. -/
def layeredText : String :=
  "version = 2\n[defaults]\nsum_seed = 5\nproduct_seed = 3\nunknown = true\n"

/-- A workspace in which a file and a variable both say something. -/
def layered : Workspace where
  tree := .directory [("settings.toml", .file layeredText)]
  here := []
  environment := [("CALC_DEFAULTS__SUM_SEED", " +7"), ("HOME", "/")]

def layeredFile : Layer :=
  .table (.file "settings.toml") [
    ("defaults", .table (.file "settings.toml") [
      ("product_seed", .leaf (.file "settings.toml") (.signed 3)),
      ("sum_seed", .leaf (.file "settings.toml") (.signed 5)),
      ("unknown", .leaf (.file "settings.toml") (.bool true))]),
    ("version", .leaf (.file "settings.toml") (.signed 2))]

theorem fileLayer_layered : fileLayer layered ⟨"settings.toml"⟩ = .ok layeredFile := by
  have hsearch : layered.search? ⟨"settings.toml"⟩ = some (⟨"/settings.toml"⟩, layeredText) := by
    decide +kernel
  have hparse : Toml.parse? layeredText = some [
      ("defaults", .table [("product_seed", .integer 3), ("sum_seed", .integer 5),
        ("unknown", .boolean true)]), ("version", .integer 2)] := by
    cbv
  have hshown : Path.shownFrom [] ⟨"/settings.toml"⟩ = "settings.toml" := by
    decide +kernel
  rw [fileLayer, hsearch]
  simp only [hparse]
  rw [show layered.here = [] from rfl, hshown]
  rfl

/-- What the one variable of that workspace says that holds a setting. -/
def layeredVariable : Layer :=
  .table .environment [("defaults",
    .table .environment [("sum_seed", .leaf .environment (.unsigned 7))])]

theorem layerOf?_layered :
    Environment.layerOf? ("CALC_DEFAULTS__SUM_SEED", " +7") = some layeredVariable ∧
      Environment.layerOf? ("HOME", "/") = none :=
  ⟨rfl, rfl⟩

theorem given?_layered (path : List String) :
    Environment.given? layered.environment path = layeredVariable.at? path := by
  simp [Environment.given?, layered, layerOf?_layered]

theorem loadFrom_layered : ∃ s, loadFrom layered ⟨"settings.toml"⟩ = .ok s ∧
    s.version = 2 ∧ s.defaults = ⟨0, 7, 3⟩ := by
  have hfits (L : Layer) (hL : L = layeredFile ∨ L = layeredVariable) : L.Fits := by
    constructor
    · intro place hplace l h
      simp only [groupPaths, List.mem_cons, List.not_mem_nil, or_false] at hplace
      rcases hL with rfl | rfl <;> rcases hplace with rfl | rfl | rfl | rfl | rfl <;>
        cases h <;> rfl
    · intro x l h
      rcases hL with rfl | rfl <;> cases x <;> cases h <;> exact ⟨_, rfl⟩
  have henv : Environment.Fits layered.environment := by
    intro v hv l hl
    simp only [layered, List.mem_cons, List.not_mem_nil, or_false] at hv
    rcases hv with rfl | rfl
    · rw [layerOf?_layered.1] at hl
      cases hl
      exact hfits _ (.inr rfl)
    · cases hl
  obtain ⟨⟨s, hs, hchosen⟩, -, -⟩ := loadFrom_chosen fileLayer_layered (hfits _ (.inl rfl)) henv
  have hleaf (x : Setting) :
      x.get? s = x.from? ((layeredVariable.at? x.path).or (layeredFile.at? x.path)) := by
    rw [hchosen.leaf x, Setting.chosen?, given?_layered]
  have hversion : s.version = 2 := Option.some.inj (hleaf .version)
  have hinitial : s.defaults.initialValue = 0 := Option.some.inj (hleaf .initialValue)
  have hsum : s.defaults.sumSeed = 7 := Option.some.inj (hleaf .sumSeed)
  have hproduct : s.defaults.productSeed = 3 := Option.some.inj (hleaf .productSeed)
  refine ⟨s, hs, hversion, ?_⟩
  obtain ⟨_, ⟨_, _, _⟩, _, _⟩ := s
  simp only at hinitial hsum hproduct
  rw [hinitial, hsum, hproduct]

end Abacus.Settings
