import Abacus.Proofs.Settings.Offences
import Abacus.Proofs.Settings.Precedence

/-!
# Settings that cannot be loaded

Settings fail to load exactly if something offends in the merged layers. The fault is then the first
offence, and it is blamed on the environment if that says anything at its key, or else on the file
(`loadFrom_offends`). The built-in defaults are never blamed, because they do not offend.

A value of the merged layers was said by one layer alone, or by the upper one of two that both have a
table there (`Layer.said_of_merge`); either way its source is that of the upper layer that says
something.
-/

namespace Abacus.Settings

namespace Layer

variable {L lower upper : Layer} {path : List String}

/-! ## Offences of merged layers -/

theorem Plain.merge (hl : lower.Plain) (hf : upper.Plain) (hu : upper.Ordered) :
    (lower.merge upper).Plain where
  groups place hplace v hv := by
    rcases said_of_merge hu hv with ⟨u, hsaid, rfl | ⟨l, rfl⟩⟩ | ⟨-, hsaid⟩
    · exact hf.groups place hplace v hsaid
    · rw [isList_merge]
      exact hf.groups place hplace u hsaid
    · exact hl.groups place hplace v hsaid
  policy v hv := by
    rcases said_of_merge hu hv with ⟨u, hsaid, rfl | ⟨l, rfl⟩⟩ | ⟨-, hsaid⟩
    · exact hf.policy v hsaid
    · rw [isTable_merge_eq]
      exact hf.policy u hsaid
    · exact hl.policy v hsaid

theorem Fits.plain (h : L.Fits) : L.Plain where
  groups place hplace l hl := by
    obtain ⟨s, es, rfl⟩ := eq_table (h.groups place hplace l hl)
    rfl
  policy _ hl := h.isTable_eq_false hl

/-- A layer that fits does not offend. -/
theorem Fits.not_offends (h : L.Fits) : ¬L.Offends path := by
  rintro (⟨hplace, hl, hnot⟩ | ⟨x, hl, hnot⟩)
  · rw [h.groups _ hplace _ hl] at hnot
    cases hnot
  · obtain ⟨a, ha⟩ := h.leaves x _ hl
    rcases x.read_cases fun _ => h.isTable_eq_false hl with ⟨-, -, hholds⟩ | ⟨f, hf, -⟩
    · exact hnot hholds
    · rw [ha] at hf
      cases hf

/-- Whether a layer offends at a path depends on what it says there. -/
theorem Offends.congr {L' : Layer} (h : L.Offends path) (heq : L'.at? path = L.at? path) :
    L'.Offends path := by
  cases h with
  | group hplace hl hnot => exact .group hplace (heq.trans hl) hnot
  | leaf x hl hnot => exact .leaf x (heq.trans hl) hnot

/-! ## The file -/

mutual

theorem from_ofToml (s : Source) : (v : Toml.Value) → (ofToml s v).From s
  | .string _ | .integer _ | .float _ | .boolean _ => by
    rw [ofToml]
    exact from_leaf s _
  | .array _ => by
    rw [ofToml]
    exact from_list s _
  | .datetime t => by
    rw [ofToml]
    exact from_table (List.forall_mem_singleton.2 (from_leaf s _))
  | .table es => by
    rw [ofToml]
    exact from_table (from_ofTomlEntries s es)

theorem from_ofTomlEntries (s : Source) : (es : List (String × Toml.Value)) →
    ∀ e ∈ ofTomlEntries s es, e.2.From s
  | [] => by
    rw [ofTomlEntries]
    exact nofun
  | (_, v) :: rest => by
    rw [ofTomlEntries]
    exact List.forall_mem_cons.2 ⟨from_ofToml s v, from_ofTomlEntries s rest⟩

end

end Layer

variable {w : Workspace} {p : Path} {file : Layer} {path : List String}

/-- What is said below the root of the layer of a file comes from a file that is there. -/
theorem exists_file_of_at? (h : fileLayer w p = .ok file) (hne : path ≠ []) {v : Layer}
    (hv : file.at? path = some v) : ∃ q content, w.search? p = some (q, content) ∧
      v.source = .file (q.shownFrom w.here) := by
  rw [fileLayer] at h
  split at h
  next =>
    cases h
    obtain ⟨k, ks, rfl⟩ := List.exists_cons_of_ne_nil hne
    cases hv
  next q content hsearch =>
    split at h
    next => cases h
    next entries hparse =>
      cases h
      exact ⟨q, content, hsearch, Layer.from_ofToml _ (.table entries) path v hv⟩

/-! ## Loading -/

theorem ordered_layers (hfile : file.Ordered) (environment : List (String × String)) :
    (layers file environment).Ordered :=
  Layer.ordered_merge (Layer.ordered_merge (Layer.ordered_ofSettings {}) file hfile) _
    (Environment.ordered_layer environment)

theorem plain_layers (hfile : file.Ordered) (hplain : file.Plain)
    {environment : List (String × String)} (henv : (Environment.layer environment).Plain) :
    (layers file environment).Plain :=
  (Layer.fits_default.plain.merge hplain hfile).merge henv (Environment.ordered_layer environment)

/-- The source of an offence. -/
theorem source_of_offends (hfile : fileLayer w p = .ok file)
    (hoffends : (layers file w.environment).Offends path) {v : Layer}
    (hv : (layers file w.environment).at? path = some v) :
    ((Environment.layer w.environment).at? path ≠ none → v.source = .environment) ∧
      ((Environment.layer w.environment).at? path = none →
        ∃ q content, w.search? p = some (q, content) ∧
          v.source = .file (q.shownFrom w.here)) := by
  rcases Layer.said_of_merge (Environment.ordered_layer w.environment) hv with
    ⟨u, hsaid, hvu⟩ | ⟨hsilent, hbelow⟩
  · have hsource : v.source = u.source := by
      rcases hvu with rfl | ⟨l, rfl⟩
      · rfl
      · exact Layer.source_merge l u
    refine ⟨fun _ => hsource.trans (Environment.from_layer w.environment path u hsaid), ?_⟩
    intro hnone
    rw [hsaid] at hnone
    cases hnone
  · refine ⟨fun hne => absurd hsilent hne, fun _ => ?_⟩
    have hne : path ≠ [] := by
      rintro rfl
      rw [Layer.at?_nil] at hsilent
      cases hsilent
    rcases Layer.said_of_merge (ordered_fileLayer hfile) hbelow with
      ⟨u, hsaid, hvu⟩ | ⟨-, hdefault⟩
    · obtain ⟨q, content, hsearch, hsource⟩ := exists_file_of_at? hfile hne hsaid
      refine ⟨q, content, hsearch, ?_⟩
      rcases hvu with rfl | ⟨l, rfl⟩
      · exact hsource
      · rw [Layer.source_merge]
        exact hsource
    · -- The value is a default, but what offends is never one.
      exact absurd (hoffends.congr (hdefault.trans hv.symm)) Layer.fits_default.not_offends

/-- **Settings fail to load exactly if something offends in the merged layers**, and then the fault
is the first offence, blamed on the environment if that says something at its key, or else on the
file. -/
theorem loadFrom_offends (hfile : fileLayer w p = .ok file) (hplain : file.Plain)
    (henv : (Environment.layer w.environment).Plain) :
    ((∃ e, loadFrom w p = .error e) ↔ ∃ path, (layers file w.environment).Offends path) ∧
      ∀ e, loadFrom w p = .error e → ∃ f, e = .fault f ∧
        (layers file w.environment).Offends f.path ∧
        (∀ path, (layers file w.environment).Offends path → NoLater f.path path) ∧
        ((Environment.layer w.environment).at? f.path ≠ none → f.source = .environment) ∧
        ((Environment.layer w.environment).at? f.path = none →
          ∃ q content, w.search? p = some (q, content) ∧
            f.source = .file (q.shownFrom w.here)) := by
  have hordered := ordered_fileLayer hfile
  have hjudged := judged_settings (ordered_layers hordered w.environment)
    (plain_layers hordered hplain henv)
  have hload : loadFrom w p =
      (Extractor.settings (layers file w.environment)).mapError LoadError.fault := by
    rw [loadFrom, hfile]
    rfl
  rw [hload]
  cases hsettings : Extractor.settings (layers file w.environment) with
  | ok s =>
    rw [hsettings] at hjudged
    refine ⟨⟨?_, ?_⟩, ?_⟩
    · rintro ⟨e, ⟨⟩⟩
    · rintro ⟨path, hoffends⟩
      exact absurd hoffends (hjudged path)
    · rintro e ⟨⟩
  | error f =>
    rw [hsettings] at hjudged
    obtain ⟨hoffends, hfirst, v, hv, hsource⟩ := hjudged
    refine ⟨⟨fun _ => ⟨f.path, hoffends⟩, fun _ => ⟨.fault f, rfl⟩⟩, ?_⟩
    rintro _ ⟨⟩
    refine ⟨f, rfl, hoffends, hfirst, ?_⟩
    rw [hsource]
    exact source_of_offends hfile hoffends hv

/-- The workspace with a file, and a variable that holds no integer where one should be. -/
def garbled : Workspace := { layered with environment := [("calc_defaults.sum_seed", "all")] }

theorem layer_garbled : Environment.layer garbled.environment =
    .table .environment [("defaults",
      .table .environment [("sum_seed", .leaf .environment (.text "all"))])] := by
  have hpath : Environment.path? "calc_defaults.sum_seed" = some ["defaults", "sum_seed"] := by rfl
  have hvalue : Environment.value "all" = .leaf .environment (.text "all") := by cbv
  simp [garbled, Environment.layer, Environment.add, hpath, hvalue, Environment.nested, Layer.merge,
    Layer.mergeEntries, List.lookup, Entries.insert]

/-- The text in the variable is blamed, not the integer that the file has in its place. -/
theorem loadFrom_offends_garbled : ∃ f, loadFrom garbled ⟨"settings.toml"⟩ = .error (.fault f) ∧
    NoLater f.path ["defaults", "sum_seed"] ∧
    ((Environment.layer garbled.environment).at? f.path ≠ none → f.source = .environment) := by
  have hfile : fileLayer garbled ⟨"settings.toml"⟩ = .ok layeredFile := by
    rw [← fileLayer_layered]
    simp only [fileLayer, Workspace.search?, garbled]
  have hplain (L : Layer) (hL : L = layeredFile ∨ L = Environment.layer garbled.environment) :
      L.Plain := by
    rw [layer_garbled] at hL
    constructor
    · intro place hplace l h
      simp only [groupPaths, List.mem_cons, List.not_mem_nil, or_false] at hplace
      rcases hL with rfl | rfl <;> rcases hplace with rfl | rfl | rfl | rfl | rfl <;>
        cases h <;> rfl
    · intro l h
      rcases hL with rfl | rfl <;> cases h
  have hoffends : (layers layeredFile garbled.environment).Offends ["defaults", "sum_seed"] := by
    have hsaid : (layers layeredFile garbled.environment).at? ["defaults", "sum_seed"] =
        some (.leaf .environment (.text "all")) := by
      rw [layers, layer_garbled]
      rfl
    refine .leaf .sumSeed hsaid ?_
    rintro ⟨n, ⟨⟩, -⟩
  obtain ⟨hfails, hfault⟩ := loadFrom_offends hfile (hplain _ (.inl rfl)) (hplain _ (.inr rfl))
  obtain ⟨e, he⟩ := hfails.2 ⟨_, hoffends⟩
  obtain ⟨f, rfl, -, hfirst, hsource, -⟩ := hfault e he
  exact ⟨f, he, hfirst _ hoffends, hsource⟩

end Abacus.Settings
