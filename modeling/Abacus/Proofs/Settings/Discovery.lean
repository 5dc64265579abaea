import Abacus.Proofs.Places
import Abacus.Proofs.Settings.Precedence

/-!
# Which file is loaded

Without a path of one's own, settings come from the nearest settings folder above the current
directory (`load_of_file`, `load_of_empty_folder`). That is the nearest settings file, as long as
the nearest folder holds one (`load_nearest`). A folder without a file hides the files further up
(`load_hidden`).
-/

namespace Abacus.Settings

/-! ## Loading what was found -/

/-- Settings from the text of a file, which is shown under a name where it is at fault. -/
def ofText (shown text : String) (environment : List (String × String)) :
    Except LoadError Settings :=
  match Toml.parse? text with
  | none => .error .malformed
  | some entries =>
    (Extractor.settings (layers (.ofToml (.file shown) (.table entries)) environment)).mapError
      .fault

/-- A file that is found is the layer between the defaults and the environment. -/
theorem loadFrom_of_found {w : Workspace} {p q : Path} {text : String}
    (h : w.search? p = some (q, text)) :
    loadFrom w p = ofText (q.shownFrom w.here) text w.environment := by
  rw [loadFrom, fileLayer, h, ofText]
  simp only []
  cases Toml.parse? text <;> rfl

/-- Where nothing is found and no variable speaks, the settings are the defaults. -/
theorem loadFrom_of_missing {w : Workspace} {p : Path} (h : w.search? p = none)
    (henv : ∀ v ∈ w.environment, Environment.path? v.1 = none) : loadFrom w p = .ok {} := by
  have hordered : (Layer.table .builtin []).Ordered := ⟨List.Pairwise.nil, trivial⟩
  obtain ⟨s, hs, hleaves⟩ := layers_leaves hordered (Layer.fits_empty .builtin)
    (Environment.fits_of_silent henv)
  have hdefault : s = {} := Setting.ext fun x => by
    rw [hleaves x, Setting.chosen?, Environment.given?_of_silent henv, Option.none_or]
    cases x <;> rfl
  rw [loadFrom, fileLayer, h]
  show (Extractor.settings (layers (.table .builtin []) w.environment)).mapError LoadError.fault = _
  rw [hs, hdefault]
  rfl

/-! ## Folders and files -/

/-- The settings file of a directory. -/
def place (above : Location) : Location := above ++ [folderName, fileName]

/-- The nearest directory, from the current one up, with a settings folder. -/
def nearestFolder? (w : Workspace) : Option Location :=
  w.here.ancestors.find? fun above => w.tree.isDirectoryAt (above ++ [folderName])

/-- The nearest directory, from the current one up, with a settings file, and what the file says. -/
def nearestFile? (w : Workspace) : Option (Location × String) :=
  w.here.ancestors.findSome? fun above =>
    (w.tree.content? (place above)).map fun text => (above, text)

/-- Settings from the nearest settings file, or the defaults where there is none. -/
def fromNearestFile (w : Workspace) : Except LoadError Settings :=
  match nearestFile? w with
  | some (above, text) =>
    ofText ((Path.ofLocation (place above)).shownFrom w.here) text w.environment
  | none => .ok {}

theorem place_ne_nil (above : Location) : place above ≠ [] := by
  simp [place]

theorem isName_place {above : Location} (h : ∀ n ∈ above, Path.IsName n) :
    ∀ n ∈ place above, Path.IsName n := by
  intro n hn
  simp only [place, List.mem_append, List.mem_cons, List.not_mem_nil, or_false] at hn
  rcases hn with hn | rfl | rfl
  · exact h n hn
  · decide
  · decide

/-- A settings file stands in a settings folder. -/
theorem isDirectoryAt_of_content? {t : FileTree} {above : Location} {text : String}
    (h : t.content? (place above) = some text) : t.isDirectoryAt (above ++ [folderName]) = true := by
  have hget : t.get? (above ++ [folderName] ++ [fileName]) = some (.file text) := by
    rw [List.append_assoc]
    exact FileTree.content?_eq_some.1 h
  exact FileTree.isDirectoryAt_of_get? hget

theorem search?_place (w : Workspace) {above : Location} (h : ∀ n ∈ above, Path.IsName n) :
    w.search? (.ofLocation (place above)) =
      (w.tree.content? (place above)).map fun text => (.ofLocation (place above), text) := by
  rw [Workspace.search?, Path.isAbsolute_ofLocation, if_pos rfl,
    FileTree.read?_ofLocation (place_ne_nil above) (isName_place h)]

/-- Without any settings folder the relative path leads to no file either. -/
theorem search?_of_no_folder {w : Workspace} (hhere : ∀ n ∈ w.here, Path.IsName n)
    (h : nearestFolder? w = none) : w.search? (Path.join ⟨folderName⟩ ⟨fileName⟩) = none := by
  have hrelative : (Path.join ⟨folderName⟩ ⟨fileName⟩).isAbsolute = false := by decide
  have hparts : (Path.join ⟨folderName⟩ ⟨fileName⟩).parts = [.name folderName, .name fileName] := by
    decide
  rw [Workspace.search?, hrelative, if_neg Bool.false_ne_true, List.findSome?_eq_none_iff]
  intro above habove
  have hnames : ∀ n ∈ above, Path.IsName n := fun n hn =>
    hhere n ((Location.prefix_of_mem_ancestors habove).mem hn)
  have hjoined : ((Path.ofLocation above).join (Path.join ⟨folderName⟩ ⟨fileName⟩)).parts =
      .here :: (place above).map .name := by
    rw [Path.parts_join hnames hrelative, hparts, place, List.map_append]
    rfl
  refine Option.map_eq_none_iff.2 ?_
  rw [FileTree.read?_of_parts (place_ne_nil above) (Path.isAbsolute_join hnames hrelative) hjoined]
  cases hcontent : w.tree.content? (place above) with
  | none => rfl
  | some text =>
    have hfolder := List.find?_eq_none.1 h above habove
    exact absurd (isDirectoryAt_of_content? hcontent) hfolder

/-! ## Loading without a path -/

theorem workspaceFile?_eq (w : Workspace) :
    workspaceFile? w = (nearestFolder? w).map fun above => .ofLocation (place above) := rfl

/-- Without a folder the settings are the defaults, ... -/
theorem load_of_no_folder {w : Workspace} (hhere : ∀ n ∈ w.here, Path.IsName n)
    (henv : ∀ v ∈ w.environment, Environment.path? v.1 = none) (h : nearestFolder? w = none) :
    load w = .ok {} := by
  rw [load, workspaceFile?_eq, h]
  exact loadFrom_of_missing (search?_of_no_folder hhere h) henv

theorem load_of_folder {w : Workspace} {above : Location} (h : nearestFolder? w = some above) :
    load w = loadFrom w (.ofLocation (place above)) := by
  rw [load, workspaceFile?_eq, h]
  rfl

theorem isName_of_nearestFolder? {w : Workspace} {above : Location}
    (hhere : ∀ n ∈ w.here, Path.IsName n) (h : nearestFolder? w = some above) :
    ∀ n ∈ above, Path.IsName n := fun n hn =>
  hhere n ((Location.prefix_of_mem_ancestors (List.mem_of_find?_eq_some h)).mem hn)

/-- ... and so they are if the nearest folder is empty; ... -/
theorem load_of_empty_folder {w : Workspace} {above : Location}
    (hhere : ∀ n ∈ w.here, Path.IsName n)
    (henv : ∀ v ∈ w.environment, Environment.path? v.1 = none)
    (h : nearestFolder? w = some above) (hempty : w.tree.content? (place above) = none) :
    load w = .ok {} := by
  rw [load_of_folder h]
  refine loadFrom_of_missing ?_ henv
  rw [search?_place w (isName_of_nearestFolder? hhere h), hempty]
  rfl

/-- ... otherwise they come from the file in that folder. -/
theorem load_of_file {w : Workspace} {above : Location} {text : String}
    (hhere : ∀ n ∈ w.here, Path.IsName n) (h : nearestFolder? w = some above)
    (htext : w.tree.content? (place above) = some text) :
    load w = ofText ((Path.ofLocation (place above)).shownFrom w.here) text w.environment := by
  rw [load_of_folder h]
  refine loadFrom_of_found ?_
  rw [search?_place w (isName_of_nearestFolder? hhere h), htext]
  rfl

/-- The nearest folder holds the nearest file, if it holds one at all. -/
theorem nearestFile?_of_folder {w : Workspace} {above : Location} {text : String}
    (hfolder : nearestFolder? w = some above) (h : w.tree.content? (place above) = some text) :
    nearestFile? w = some (above, text) := by
  obtain ⟨-, nearer, further, hancestors, hnearer⟩ := List.find?_eq_some_iff_append.1 hfolder
  rw [nearestFile?, List.findSome?_eq_some_iff]
  refine ⟨nearer, above, further, hancestors, by rw [h]; rfl, fun above' habove' => ?_⟩
  rw [Option.map_eq_none_iff]
  cases hcontent : w.tree.content? (place above') with
  | none => rfl
  | some text' =>
    have hnone := hnearer above' habove'
    rw [isDirectoryAt_of_content? hcontent] at hnone
    cases hnone

/-- Where there is no folder there is no file. -/
theorem nearestFile?_of_no_folder {w : Workspace} (h : nearestFolder? w = none) :
    nearestFile? w = none := by
  rw [nearestFile?, List.findSome?_eq_none_iff]
  intro above habove
  rw [Option.map_eq_none_iff]
  cases hcontent : w.tree.content? (place above) with
  | none => rfl
  | some text =>
    exact absurd (isDirectoryAt_of_content? hcontent) (List.find?_eq_none.1 h above habove)

/-- Unless the nearest folder is empty and there is a file further up, the nearest file decides. -/
theorem load_eq_fromNearestFile {w : Workspace} (hhere : ∀ n ∈ w.here, Path.IsName n)
    (henv : ∀ v ∈ w.environment, Environment.path? v.1 = none)
    (hfolder : ∀ above, nearestFolder? w = some above → w.tree.content? (place above) = none →
      nearestFile? w = none) : load w = fromNearestFile w := by
  cases hnearest : nearestFolder? w with
  | none => rw [load_of_no_folder hhere henv hnearest, fromNearestFile,
      nearestFile?_of_no_folder hnearest]
  | some above =>
    cases hcontent : w.tree.content? (place above) with
    | none => rw [load_of_empty_folder hhere henv hnearest hcontent, fromNearestFile,
        hfolder above hnearest hcontent]
    | some text => rw [load_of_file hhere hnearest hcontent, fromNearestFile,
        nearestFile?_of_folder hnearest hcontent]

/-- The nearest settings file is loaded, and loading fails exactly if that file is at fault, unless
the nearest settings folder is empty and there is a file further up. An empty folder stands for the
defaults. -/
theorem load_nearest {w : Workspace} (hhere : ∀ n ∈ w.here, Path.IsName n)
    (henv : ∀ v ∈ w.environment, Environment.path? v.1 = none) :
    ((∀ above, nearestFolder? w = some above → w.tree.content? (place above) = none →
        nearestFile? w = none) →
      load w = fromNearestFile w ∧
        ((∃ e, load w = .error e) ↔ ∃ above text, nearestFile? w = some (above, text) ∧
          ∃ e, ofText ((Path.ofLocation (place above)).shownFrom w.here) text w.environment =
            .error e)) ∧
      ∀ above, nearestFolder? w = some above → w.tree.content? (place above) = none →
        load w = .ok {} := by
  refine ⟨fun hfolder => ?_, fun above => load_of_empty_folder hhere henv⟩
  have hload := load_eq_fromNearestFile hhere henv hfolder
  refine ⟨hload, ?_⟩
  rw [hload, fromNearestFile]
  constructor
  · rintro ⟨e, he⟩
    split at he
    next above text hfile => exact ⟨above, text, hfile, e, he⟩
    next => cases he
  · rintro ⟨above, text, hfile, e, he⟩
    exact ⟨e, by rw [hfile]; exact he⟩

/-- A file that says one thing. -/
def two : String := "version = 2\n"

theorem ofText_two (shown : String) : ofText shown two [] = .ok { version := 2 } := by
  have hparse : Toml.parse? two = some [("version", .integer 2)] := by cbv
  simp only [ofText, hparse]
  rfl

/-- The current directory of the workspaces below. -/
def inside : Location := ["a", "b"]

theorem isName_inside : ∀ n ∈ inside, Path.IsName n := by decide

/-- A workspace with two files on the way up. -/
def nested : Workspace where
  tree := .directory [(".sample-calc", .directory [("settings.toml", .file "version = 3\n")]),
    ("a", .directory [(".sample-calc", .directory [("settings.toml", .file two)]),
      ("b", .directory [])])]
  here := inside

theorem load_nearest_nested : nearestFile? nested = some (["a"], two) ∧
    load nested = fromNearestFile nested ∧ load nested = .ok { version := 2 } := by
  have hnearest : nearestFile? nested = some (["a"], two) := by decide +kernel
  have hfolder : nearestFolder? nested = some ["a"] := by decide +kernel
  have hload : load nested = fromNearestFile nested := by
    refine ((load_nearest (w := nested) isName_inside nofun).1 fun above habove hempty => ?_).1
    rw [hfolder] at habove
    cases habove
    cases hempty
  refine ⟨hnearest, hload, ?_⟩
  rw [hload, fromNearestFile, hnearest]
  exact ofText_two _

/-- A workspace with a file above an empty folder. -/
def hidden : Workspace where
  tree := .directory [(".sample-calc", .directory [("settings.toml", .file two)]),
    ("a", .directory [(".sample-calc", .directory []), ("b", .directory [])])]
  here := inside

/-- **An empty folder hides the file further up.** -/
theorem load_hidden : load hidden = .ok {} ∧ nearestFile? hidden = some ([], two) ∧
    fromNearestFile hidden = .ok { version := 2 } ∧ load hidden ≠ fromNearestFile hidden := by
  have hload : load hidden = .ok {} :=
    load_of_empty_folder (w := hidden) isName_inside nofun
      (show nearestFolder? hidden = some ["a"] by decide +kernel) rfl
  have hnearest : nearestFile? hidden = some ([], two) := by decide +kernel
  have hfrom : fromNearestFile hidden = .ok { version := 2 } := by
    rw [fromNearestFile, hnearest]
    exact ofText_two _
  refine ⟨hload, hnearest, hfrom, ?_⟩
  rw [hload, hfrom]
  intro h
  exact absurd (congrArg Settings.version (Except.ok.inj h)) (by decide)

end Abacus.Settings
