import Abacus.Proofs.Settings.Precedence
import Abacus.Proofs.Toml.Tables
import Abacus.Proofs.Workspace
import Abacus.Settings.Save

/-!
# Saved settings

Settings that were saved are loaded again as they were (`loadFrom_saved`), whatever texts they hold
and in whatever order the levels of the modules were written.

The way back goes through four forms. The lines of the saved text build a tree of tables line by
line (`foldlM_groups`, `foldlM_modules`), the tree is one document (`parse?_sectionsWith`), the
document says of every setting what it is (`at?_savedLayer`), and a layer that says all of them
leaves nothing to the defaults (`settings_savedLayer`).
-/

namespace Abacus.Settings

open Toml (Progress Statement Section)

/-! ## The document -/

/-- The document that settings are saved as. -/
def document (s : Settings) : List (String × Toml.Value) := [
  ("defaults", .table [("initial_value", .integer s.defaults.initialValue),
    ("product_seed", .integer s.defaults.productSeed),
    ("sum_seed", .integer s.defaults.sumSeed)]),
  ("logging", .table [("default", .string s.logging.default),
    ("modules", .table (s.logging.modules.toList.map fun e => (e.1, .string e.2)))]),
  ("scientific", .table [("negative_sqrt", .string s.scientific.negativeSqrt.name)]),
  ("version", .integer (Int64.ofInt s.version.toNat))]

theorem fits_sectionsWith (s : Settings) (modules : List (String × String)) :
    ∀ t ∈ s.sectionsWith modules, t.Fits := by
  have hversion := s.version.toNat_lt
  have hint (n : Int64) : Toml.Scalar.Fits (.integer n.toInt) := ⟨n.le_toInt, n.toInt_lt⟩
  have htext (t : String) : Toml.Scalar.Fits (.string t) := trivial
  have hpath {path : List String} (h : path.length ≤ 2) : path.length < Toml.nestingLimit :=
    Nat.lt_of_le_of_lt h (by decide)
  simp only [sectionsWith, List.forall_mem_cons]
  refine ⟨⟨hpath (by simp), ?_⟩, ⟨hpath (by simp), ?_⟩, ⟨hpath (by simp), ?_⟩,
    ⟨hpath (by simp), ?_⟩, ⟨hpath (by simp), ?_⟩, by simp⟩
  · simp only [List.forall_mem_cons, Toml.Scalar.Fits]
    exact ⟨by omega, by simp⟩
  · simp only [List.forall_mem_cons]
    exact ⟨hint _, hint _, hint _, by simp⟩
  · simp [htext]
  · simp [htext]
  · intro e he
    obtain ⟨e', -, rfl⟩ := List.mem_map.1 he
    trivial

/-- The tree of tables with the levels of the modules. -/
def groupNodes (s : Settings) (modules : List (String × Toml.Node)) : Toml.Nodes := [
  ("defaults", .table false false [
    ("initial_value", .value (.integer s.defaults.initialValue)),
    ("product_seed", .value (.integer s.defaults.productSeed)),
    ("sum_seed", .value (.integer s.defaults.sumSeed))]),
  ("logging", .table false false [
    ("default", .value (.string s.logging.default)),
    ("modules", .table false false modules)]),
  ("scientific", .table false false [
    ("negative_sqrt", .value (.string s.scientific.negativeSqrt.name))]),
  ("version", .value (.integer (Int64.ofInt s.version.toNat)))]

/-- The lines above those of the modules open all tables. -/
theorem foldlM_groups (s : Settings) :
    ((s.sectionsWith []).flatMap Section.statements).foldlM Progress.step {} =
      some ⟨s.groupNodes [], ["logging", "modules"]⟩ := by
  have hwritten : ∀ n : Int64, n = Int64.ofInt n.toInt := fun n => n.ofInt_toInt.symm
  unfold groupNodes
  rw [hwritten s.defaults.initialValue, hwritten s.defaults.productSeed,
    hwritten s.defaults.sumSeed]
  simp only [sectionsWith, List.flatMap_cons, List.flatMap_nil, Section.statements, List.map_cons,
    List.map_nil, List.foldlM_append, List.foldlM_cons, Progress.step, Toml.Scalar.toValue?_term]
  rfl

/-- A change of the last table. -/
theorem changeAt_modules (s : Settings) {f : Toml.Change} {modules nodes : Toml.Nodes}
    (h : f false modules = some nodes) :
    Toml.changeAt false ["logging", "modules"] f false (s.groupNodes modules) =
      some (s.groupNodes nodes) := by
  simp only [groupNodes, Toml.changeAt, Entries.lookup_cons, Entries.insert, h, String.reduceLT,
    String.reduceEq, if_true, if_false]
  rfl

/-- The lines of the modules fill the last table. -/
theorem foldlM_modules (s : Settings) {modules : List (String × String)}
    (hmodules : (modules.map Prod.fst).Nodup) :
    (modules.map fun e => Statement.entry [e.1] (.string e.2)).foldlM Progress.step
        ⟨s.groupNodes [], ["logging", "modules"]⟩ =
      some ⟨s.groupNodes ((Entries.ofList modules).map fun e => (e.1, .value (.string e.2))),
        ["logging", "modules"]⟩ := by
  cases modules with
  | nil => rfl
  | cons e es =>
    have hvalues : Toml.addValues ((e :: es).map fun e => (e.1, .string e.2)) false [] =
        some (((Entries.ofList (e :: es)).map fun e => (e.1, .string e.2)).map
          fun e => (e.1, .value e.2)) := by
      rw [← Entries.ofList_map]
      exact Toml.addValues_nil (by rwa [Entries.map_fst_map])
    have hlines := Toml.foldlM_step_entries (e.1, .string e.2)
      (es.map fun e => (e.1, .string e.2)) ⟨s.groupNodes [], ["logging", "modules"]⟩
    simp only [List.map_cons, List.map_map] at hlines hvalues
    refine hlines.trans ?_
    exact congrArg (Option.map fun nodes => (⟨nodes, ["logging", "modules"]⟩ : Progress))
      (changeAt_modules s hvalues)

/-- **Saved settings are read back as the document, whatever the order of the modules.** -/
theorem parse?_sectionsWith (s : Settings) {modules : List (String × String)}
    (hmodules : modules.Perm s.logging.modules.toList) (n : Nat) :
    Toml.parse? (Toml.render (s.sectionsWith modules) ++ String.ofList (List.replicate n '\n')) =
      some s.document := by
  have hordered : Entries.Ordered s.logging.modules.toList := s.logging.modules.ordered
  have hnodup : (modules.map Prod.fst).Nodup :=
    (hmodules.map Prod.fst).nodup_iff.2 hordered.nodup
  have hsplit : (s.sectionsWith modules).flatMap Section.statements =
      (s.sectionsWith []).flatMap Section.statements ++
        modules.map fun e => Statement.entry [e.1] (.string e.2) := by
    simp [sectionsWith, Section.statements, Toml.Scalar.term]
  have hdone : ((s.sectionsWith modules).flatMap Section.statements).foldlM Progress.step {} =
      some ⟨s.groupNodes (s.logging.modules.toList.map fun e => (e.1, .value (.string e.2))),
        ["logging", "modules"]⟩ := by
    rw [hsplit, List.foldlM_append, foldlM_groups, Option.bind_eq_bind, Option.bind_some,
      foldlM_modules s hnodup, Entries.ofList_of_perm hmodules hordered]
  rw [Toml.parse?, Toml.statements?_render (s.fits_sectionsWith modules) n, Option.bind_eq_bind,
    Option.bind_some, hdone]
  have hmap (es : List (String × String)) :
      Toml.Node.toEntries (es.map fun e => (e.1, .value (.string e.2))) =
        es.map fun e => (e.1, .string e.2) := by
    rw [Toml.Node.toEntries_eq, List.map_map]
    rfl
  simp [groupNodes, document, Toml.Node.toEntries, Toml.Node.toValue, hmap]

/-- The saved form itself is the document. -/
theorem parse?_toToml (s : Settings) : Toml.parse? s.toToml = some s.document := by
  have h := s.parse?_sectionsWith (.refl s.logging.modules.toList) 0
  rwa [List.replicate_zero, String.ofList_nil, String.append_empty] at h

/-! ## The layer -/

namespace Extractor

theorem int64_toInt (src : Source) (n : Int64) :
    int64 (.leaf src (.signed n.toInt)) = .ok n := by
  have hlow := n.le_toInt
  have hhigh := n.toInt_lt
  have hwithin : (-0x8000000000000000 : Int) ≤ n.toInt ∧ n.toInt ≤ 0x7FFFFFFFFFFFFFFF := by omega
  simp [int64, integer, hwithin, Except.map]

theorem uint32_toNat (src : Source) (n : UInt32) :
    uint32 (.leaf src (.signed (Int64.ofInt n.toNat).toInt)) = .ok n := by
  have hlt := n.toNat_lt
  have hwithin : (0 : Int) ≤ (n.toNat : Int) ∧ (n.toNat : Int) ≤ 0xFFFFFFFF := by omega
  rw [Int64.toInt_ofInt_of_le (by omega) (by omega)]
  simp [uint32, integer, hwithin, Except.map]

theorem policy_name (src : Source) (p : SqrtPolicy) :
    policy (.leaf src (.text p.name)) = .ok p := by
  cases p <;> rfl

end Extractor

/-- The layer of the document that settings are saved as. -/
def savedLayer (s : Settings) (src : Source) : Layer := .ofToml src (.table s.document)

theorem ordered_savedLayer (s : Settings) (src : Source) : (s.savedLayer src).Ordered :=
  Layer.ordered_ofToml src (.table s.document)
    (Toml.ordered_of_parse? s.parse?_toToml)

/-- The document says of every setting what it is. -/
theorem at?_savedLayer (s : Settings) (src : Source) (x : Setting) :
    (∀ l, (s.savedLayer src).at? x.path = some l → ∃ a, x.read l = .ok a ∧ x.get? s = some a) ∧
      ((s.savedLayer src).at? x.path = none → x.get? s = none ∧ x.get? {} = none) := by
  have hsome {x : Setting} {l : Layer} {a : x.Value} (hat : (s.savedLayer src).at? x.path = some l)
      (hread : x.read l = .ok a) (hget : x.get? s = some a) :
      (∀ l, (s.savedLayer src).at? x.path = some l → ∃ a, x.read l = .ok a ∧ x.get? s = some a) ∧
        ((s.savedLayer src).at? x.path = none → x.get? s = none ∧ x.get? {} = none) := by
    refine ⟨fun l' hl' => ?_, fun hnone => ?_⟩
    · rw [hat] at hl'
      cases hl'
      exact ⟨a, hread, hget⟩
    · rw [hat] at hnone
      cases hnone
  cases x with
  | version => exact hsome rfl (Extractor.uint32_toNat src s.version) rfl
  | initialValue => exact hsome rfl (Extractor.int64_toInt src s.defaults.initialValue) rfl
  | sumSeed => exact hsome rfl (Extractor.int64_toInt src s.defaults.sumSeed) rfl
  | productSeed => exact hsome rfl (Extractor.int64_toInt src s.defaults.productSeed) rfl
  | negativeSqrt => exact hsome rfl (Extractor.policy_name src s.scientific.negativeSqrt) rfl
  | level => exact hsome rfl rfl rfl
  | module name =>
    have hat : (s.savedLayer src).at? (Setting.path (.module name)) =
        (s.logging.modules.get? name).map fun t => .leaf src (.text t) := by
      have hmodules : (s.savedLayer src).at? ["logging", "modules"] = some (.table src
          (Layer.ofTomlEntries src (s.logging.modules.toList.map fun e => (e.1, .string e.2)))) :=
        rfl
      refine (Layer.at?_concat_of_table hmodules name).trans ?_
      rw [Layer.ofTomlEntries_eq, Entries.lookup_map, Entries.lookup_map, Option.map_map]
      rfl
    cases hget : s.logging.modules.get? name with
    | some t =>
      rw [hget] at hat
      exact hsome hat rfl hget
    | none =>
      rw [hget] at hat
      refine ⟨fun l hl => ?_, fun _ => ⟨hget, rfl⟩⟩
      rw [hat] at hl
      cases hl

theorem fits_savedLayer (s : Settings) (src : Source) : (s.savedLayer src).Fits where
  groups place hplace l h := by
    simp only [groupPaths, List.mem_cons, List.not_mem_nil, or_false] at hplace
    rcases hplace with rfl | rfl | rfl | rfl | rfl <;> cases h <;> rfl
  leaves x l h := by
    obtain ⟨a, ha, -⟩ := (s.at?_savedLayer src x).1 l h
    exact ⟨a, ha⟩

/-- Without a variable the saved settings are those that are loaded. -/
theorem settings_savedLayer (s : Settings) (src : Source) {environment : List (String × String)}
    (henv : ∀ v ∈ environment, Environment.path? v.1 = none) :
    Extractor.settings (layers (s.savedLayer src) environment) = .ok s := by
  obtain ⟨t, ht, hleaves⟩ := layers_leaves (s.ordered_savedLayer src) (s.fits_savedLayer src)
    (Environment.fits_of_silent henv)
  have heq : t = s := Setting.ext fun x => by
    rw [hleaves x, Setting.chosen?, Environment.given?_of_silent henv, Option.none_or]
    obtain ⟨hsome, hnone⟩ := s.at?_savedLayer src x
    cases hat : (s.savedLayer src).at? x.path with
    | some l =>
      obtain ⟨a, ha, hget⟩ := hsome l hat
      rw [Setting.from?, ha, hget]
      rfl
    | none =>
      obtain ⟨hget, hdefault⟩ := hnone hat
      rw [Setting.from?, hget, hdefault]
  rw [ht, heq]

/-! ## The file -/

/-- A file with the document of some settings gives those settings. -/
theorem loadFrom_of_search {s : Settings} {w : Workspace} {p q : Path} {text : String}
    (hsearch : w.search? p = some (q, text)) (hparse : Toml.parse? text = some s.document)
    (henv : ∀ v ∈ w.environment, Environment.path? v.1 = none) : loadFrom w p = .ok s := by
  have hsettings := s.settings_savedLayer (.file (q.shownFrom w.here)) henv
  rw [loadFrom, fileLayer, hsearch]
  simp only [hparse]
  show (Extractor.settings _).mapError LoadError.fault = .ok s
  exact congrArg (Except.mapError LoadError.fault) hsettings

theorem loadFrom_write {s : Settings} {modules : List (String × String)}
    (hmodules : modules.Perm s.logging.modules.toList) (n : Nat) {tree tree' : FileTree}
    {here : Location} (hhere : ∀ name ∈ here, Path.IsName name) {p : Path}
    (h : tree.write here p
      (Toml.render (s.sectionsWith modules) ++ String.ofList (List.replicate n '\n')) = .ok tree')
    {environment : List (String × String)}
    (henv : ∀ v ∈ environment, Environment.path? v.1 = none) :
    loadFrom ⟨tree', here, environment⟩ p = .ok s := by
  obtain ⟨q, hsearch⟩ := Workspace.search?_write hhere h environment
  exact loadFrom_of_search hsearch (s.parse?_sectionsWith hmodules n) henv

/-- The two lines above the settings that are shown. -/
def banner : String :=
  "Current Configuration:" ++ "\n" ++ String.ofList (List.replicate 50 '=') ++ "\n"

theorem ended_three (a b c : String) :
    Answer.ended [a, b, c] = a ++ "\n" ++ b ++ "\n" ++ (c ++ "\n") := by
  simp only [Answer.ended, List.map_cons, List.map_nil, String.join, List.foldl_cons,
    List.foldl_nil, String.append_assoc, String.empty_append]

theorem stdout_config (s : Settings) (json : Bool) (tree : FileTree) (here : Location) :
    (Command.config.perform s json tree here).stdout = banner ++ (s.toToml ++ "\n") :=
  ended_three _ _ _

/-- **Settings that were saved, or shown and stored, are loaded again as they were.** -/
theorem loadFrom_saved (s : Settings) {here : Location} (hhere : ∀ n ∈ here, Path.IsName n)
    {environment : List (String × String)}
    (henv : ∀ v ∈ environment, Environment.path? v.1 = none) (tree tree' : FileTree) (p : Path) :
    (s.save tree here p = .ok tree' → loadFrom ⟨tree', here, environment⟩ p = .ok s) ∧
      (∀ json tree₀, ∃ text, (Command.config.perform s json tree₀ here).stdout = banner ++ text ∧
        (tree.write here p text = .ok tree' → loadFrom ⟨tree', here, environment⟩ p = .ok s)) ∧
      ∀ modules : List (String × String), modules.Perm s.logging.modules.toList → ∀ n,
        tree.write here p
            (Toml.render (s.sectionsWith modules) ++ String.ofList (List.replicate n '\n')) =
          .ok tree' → loadFrom ⟨tree', here, environment⟩ p = .ok s := by
  have hstored := s.loadFrom_write (.refl s.logging.modules.toList)
  refine ⟨fun h => ?_, fun json tree₀ => ⟨_, s.stdout_config json tree₀ here, fun h => ?_⟩,
    fun modules hmodules n h => loadFrom_write hmodules n hhere h henv⟩
  · rw [save_eq] at h
    cases hready : tree.ensureParent here p with
    | error e =>
      rw [hready] at h
      cases h
    | ok ready =>
      rw [hready] at h
      have hwrite : ready.write here p
          (s.toToml ++ String.ofList (List.replicate 0 '\n')) = .ok tree' := by
        rwa [List.replicate_zero, String.ofList_nil, String.append_empty]
      exact hstored 0 hhere hwrite henv
  · exact hstored 1 hhere h henv

/-- Settings with all that makes writing them difficult. -/
def unusual : Settings where
  version := 0xFFFFFFFF
  defaults := ⟨-0x8000000000000000, 5, 0x7FFFFFFFFFFFFFFF⟩
  scientific := ⟨.nan⟩
  logging := ⟨"\"\\", Dict.ofList [("", "a\nb"), ("x.y", "\x01\'\'\'\"\"\""), ("é\t", "")]⟩

theorem loadFrom_saved_unusual :
    loadFrom ⟨.directory [("home", .directory [("conf", .directory [("settings.toml",
        .file unusual.toToml)])])], ["home"], [("HOME", "/home")]⟩ ⟨"conf/settings.toml"⟩ =
      .ok unusual := by
  have hhere : ∀ n ∈ ["home"], Path.IsName n := by
    intro n hn
    cases List.mem_singleton.1 hn
    exact ⟨by decide, by decide⟩
  have henv : ∀ v ∈ [("HOME", "/home")], Environment.path? v.1 = none := by
    intro v hv
    cases List.mem_singleton.1 hv
    decide
  have hsave : unusual.save (.directory [("home", .directory [])]) ["home"]
      ⟨"conf/settings.toml"⟩ = .ok (.directory [("home", .directory [("conf",
        .directory [("settings.toml", .file unusual.toToml)])])]) := by
    rfl
  exact (unusual.loadFrom_saved hhere henv _ _ _).1 hsave

end Abacus.Settings
