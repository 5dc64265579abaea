import Abacus.Proofs.Command
import Abacus.Proofs.Settings.Discovery

/-!
# A settings file of one's own choice

A run that is given a settings file either stops with a settings error or uses that very file: the
one to which the path leads from the current directory (`Program.run_chosen`).

That takes a path that leads to no directory. A directory passes the check that something is there,
but not the search for a file, which goes on in the directories above
(`Program.run_chosen_directory`).
-/

namespace Abacus

namespace Program

/-- Where a path leads nowhere, the run is over. -/
theorem settings_of_missing {w : Workspace} {text : String}
    (h : w.tree.find? w.here ⟨text⟩ = none) :
    settings w (some text) = .error ("Configuration file not found: " ++ text) := by
  have hholds : w.holds ⟨text⟩ = false := by rw [Workspace.holds, FileTree.holds, h]; rfl
  simp [settings, hholds]

/-- Where a path leads to a file, its text decides. -/
theorem settings_of_file {w : Workspace} {text content : String}
    (hhere : ∀ n ∈ w.here, Path.IsName n) (h : w.tree.read? w.here ⟨text⟩ = some content) :
    settings w (some text) =
      (Settings.ofText ((w.herePath.join ⟨text⟩).shownFrom w.here) content
        w.environment).mapError Settings.LoadError.message := by
  have hholds : w.holds ⟨text⟩ = true := by
    rw [Workspace.holds, FileTree.holds]
    rw [FileTree.read?] at h
    cases hfind : w.tree.find? w.here ⟨text⟩ with
    | none =>
      rw [hfind] at h
      cases h
    | some node => rfl
  rw [settings]
  simp only [hholds, if_true]
  rw [Settings.loadFrom_of_found (w.search?_of_read? hhere h)]

/-- A run with settings carries out its command. -/
theorem run_settled {w : Workspace} {args : List String} {line : CommandLine} {s : Settings}
    (hline : CommandLine.parse args = .ok line) (hsettings : settings w line.config = .ok s) :
    run w args = .ok (carryOut w line.json line.command s) := by
  rw [run, hline]
  simp only [bind, Except.bind, hsettings]
  rfl

/-- A file that starts from seven. -/
def seven : String := "[defaults]\ninitial_value = 7\n"

theorem settings_of_seven {w : Workspace} {text : String} {q : Path}
    (hholds : w.holds ⟨text⟩ = true) (hsearch : w.search? ⟨text⟩ = some (q, seven))
    (henv : w.environment = []) :
    settings w (some text) = .ok { defaults := { initialValue := 7 } } := by
  have hparse : Toml.parse? seven = some [("defaults", .table [("initial_value", .integer 7)])] := by
    cbv
  rw [settings]
  simp only [hholds, if_true, Settings.loadFrom_of_found hsearch, Settings.ofText, hparse, henv]
  rfl

theorem parse_chosen : CommandLine.parse ["--config", "conf", "run", "value"] =
    .ok ⟨some "conf", false, .run .basic none ["value"]⟩ := rfl

/-- A run that is given the path of a settings file stops with status 2 and leaves all files if
nothing is there or the file is at fault; otherwise the layer of the file is the text that the path
leads to from the current directory. A path to a directory is left out here. -/
theorem run_chosen {w : Workspace} {args : List String} {line : CommandLine} {text : String}
    (hhere : ∀ n ∈ w.here, Path.IsName n) (hline : CommandLine.parse args = .ok line)
    (hconfig : line.config = some text)
    (hfile : ∀ es, w.tree.find? w.here ⟨text⟩ ≠ some (.directory es)) :
    (∃ message, run w args = .ok (unsettled w line.json message) ∧
        (unsettled w line.json message).exitCode = 2 ∧
        (unsettled w line.json message).tree = w.tree) ∨
      ∃ content s, w.tree.read? w.here ⟨text⟩ = some content ∧
        Settings.ofText ((w.herePath.join ⟨text⟩).shownFrom w.here) content w.environment =
          .ok s ∧ run w args = .ok (carryOut w line.json line.command s) := by
  have hstops {message : String} (hsettings : settings w line.config = .error message) :
      ∃ message, run w args = .ok (unsettled w line.json message) ∧
        (unsettled w line.json message).exitCode = 2 ∧
        (unsettled w line.json message).tree = w.tree :=
    ⟨message, run_unsettled hline hsettings, rfl, rfl⟩
  rw [hconfig] at hstops
  cases hfind : w.tree.find? w.here ⟨text⟩ with
  | none => exact .inl (hstops (settings_of_missing hfind))
  | some node =>
    cases node with
    | directory es => exact absurd hfind (hfile es)
    | file content =>
      have hread : w.tree.read? w.here ⟨text⟩ = some content := by rw [FileTree.read?, hfind]
      have hsettings := settings_of_file hhere hread
      cases hloaded : Settings.ofText ((w.herePath.join ⟨text⟩).shownFrom w.here) content
          w.environment with
      | error e =>
        rw [hloaded] at hsettings
        exact .inl (hstops hsettings)
      | ok s =>
        rw [hloaded] at hsettings
        refine .inr ⟨content, s, hread, hloaded, run_settled hline ?_⟩
        rw [hconfig]
        exact hsettings

/-- A file and, above it, another one of the same name. -/
def doubled : Workspace where
  tree := .directory [("conf", .file "[defaults]\ninitial_value = 8\n"),
    ("sub", .directory [("conf", .file seven)])]
  here := ["sub"]

theorem run_chosen_doubled :
    ∃ content s, doubled.tree.read? ["sub"] ⟨"conf"⟩ = some content ∧
      Settings.ofText ((doubled.herePath.join ⟨"conf"⟩).shownFrom ["sub"]) content [] = .ok s ∧
      run doubled ["--config", "conf", "run", "value"] =
        .ok (carryOut doubled false (.run .basic none ["value"]) s) := by
  have hhere : ∀ n ∈ doubled.here, Path.IsName n := by decide
  have hread : doubled.tree.read? doubled.here ⟨"conf"⟩ = some seven := by decide +kernel
  have hfile (es : List (String × FileTree)) :
      doubled.tree.find? doubled.here ⟨"conf"⟩ ≠ some (.directory es) := by
    intro hfind
    rw [FileTree.read?, hfind] at hread
    cases hread
  have hsettings := settings_of_seven (by decide +kernel)
    (doubled.search?_of_read? hhere hread) rfl
  rcases run_chosen hhere parse_chosen rfl hfile with ⟨message, hrun, hexit, -⟩ | h
  · rw [run_settled parse_chosen hsettings] at hrun
    rw [← Except.ok.inj hrun] at hexit
    cases hexit
  · exact h

/-- A directory and, above it, a file of the same name. -/
def shadowed : Workspace where
  tree := .directory [("conf", .file seven), ("sub", .directory [("conf", .directory [])])]
  here := ["sub"]

/-- **A directory is passed over for a file of its name further up.** -/
theorem run_chosen_directory :
    shadowed.tree.read? shadowed.here ⟨"conf"⟩ = none ∧
      ∃ finish, run shadowed ["--config", "conf", "run", "value"] = .ok finish ∧
        finish.exitCode = 0 ∧ finish.stdout = "value               7  => 7\nFinal: 7\n" := by
  have hsettings : settings shadowed (some "conf") = .ok { defaults := { initialValue := 7 } } :=
    settings_of_seven (q := ⟨"/conf"⟩) (by decide +kernel) (by decide +kernel) rfl
  refine ⟨by decide +kernel, _, run_settled parse_chosen hsettings, ?_, ?_⟩
  · rfl
  · rfl

end Program

end Abacus
