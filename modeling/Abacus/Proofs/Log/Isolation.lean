import Abacus.Proofs.Program
import Abacus.Proofs.Settings.Init

/-!
# Logging only adds to the messages

What the log shows is decided by one section of the settings and one variable of the environment.
Two runs that differ in nothing else, or also in the texts of files from which these come, print the
same, end the same and leave the same files (`Program.run_isolated`).

No command but the one that shows the settings reads the section (`Command.execute_congr`). The one
that makes a settings file looks at what is where in the tree and at no text: trees that agree on
that much are `FileTree.Alike`, and whatever is done to both keeps them so.
-/

namespace Abacus

namespace FileTree

/-! ## Trees with other texts -/

/-- The same directories and the same files, whatever the texts of the files. -/
structure Alike (t t' : FileTree) : Prop where
  isDirectoryAt_eq : ∀ l, t'.isDirectoryAt l = t.isDirectoryAt l
  isSome_eq : ∀ l, (t'.get? l).isSome = (t.get? l).isSome

variable {t t' : FileTree}

theorem Alike.refl (t : FileTree) : t.Alike t := ⟨fun _ => rfl, fun _ => rfl⟩

theorem alike_file (content content' : String) : (file content).Alike (file content') := by
  constructor <;> intro l <;> cases l <;> rfl

/-- What is at a location of both: nothing, two files or two directories. -/
theorem Alike.get?_cases (h : t.Alike t') (l : Location) :
    (t.get? l = none ∧ t'.get? l = none) ∨
      (∃ c c', t.get? l = some (.file c) ∧ t'.get? l = some (.file c')) ∨
      ∃ es es', t.get? l = some (.directory es) ∧ t'.get? l = some (.directory es') := by
  have hdir := h.isDirectoryAt_eq l
  have hsome := h.isSome_eq l
  simp only [isDirectoryAt] at hdir
  rcases hl : t.get? l with - | (c | es) <;> rcases hl' : t'.get? l with - | (c' | es') <;>
    simp_all

/-- What is below a name is alike. -/
theorem Alike.below (h : t.Alike t') {n : String} {u u' : FileTree}
    (hu : t.entries.lookup n = some u) (hu' : t'.entries.lookup n = some u') :
    u.Alike u' := by
  constructor
  · intro l
    have hl := h.isDirectoryAt_eq (n :: l)
    simpa [isDirectoryAt, get?, hu, hu'] using hl
  · intro l
    have hl := h.isSome_eq (n :: l)
    simpa [get?, hu, hu'] using hl

/-- What a change below a name leaves there and below the other names. -/
theorem get?_put_cons (t : FileTree) (n : String) (ns : Location) (node : FileTree) (k : String)
    (ks : Location) :
    (t.put (n :: ns) node).get? (k :: ks) =
      if k = n then (((t.entries.lookup n).getD empty).put ns node).get? ks
      else t.get? (k :: ks) := by
  simp only [FileTree.put, get?, entries_directory, Entries.lookup_insert]
  by_cases hk : k = n
  · simp only [hk, if_true]
  · simp only [hk, if_false]

/-- Changes of a kind at the same place keep trees alike. -/
theorem Alike.put (h : t.Alike t') (l : Location) {node node' : FileTree}
    (hnode : node.Alike node') : (t.put l node).Alike (t'.put l node') := by
  induction l generalizing t t' with
  | nil => exact hnode
  | cons n ns ih =>
    have hsome := h.isSome_eq [n]
    have hchild : (((t.entries.lookup n).getD empty).put ns node).Alike
        (((t'.entries.lookup n).getD empty).put ns node') := by
      cases hu : t.entries.lookup n with
      | none =>
        cases hu' : t'.entries.lookup n with
        | none => exact ih (.refl empty)
        | some u' => simp [get?, hu, hu'] at hsome
      | some u =>
        cases hu' : t'.entries.lookup n with
        | none => simp [get?, hu, hu'] at hsome
        | some u' => exact ih (h.below hu hu')
    constructor
    · intro m
      cases m with
      | nil => rfl
      | cons k ks =>
        have hnew := hchild.isDirectoryAt_eq ks
        have hold := h.isDirectoryAt_eq (k :: ks)
        simp only [isDirectoryAt, get?_put_cons] at hnew hold ⊢
        by_cases hk : k = n
        · simp only [hk, if_true, hnew]
        · simp only [hk, if_false, hold]
    · intro m
      cases m with
      | nil => rfl
      | cons k ks =>
        rw [get?_put_cons, get?_put_cons, apply_ite Option.isSome, apply_ite Option.isSome,
          hchild.isSome_eq ks, h.isSome_eq (k :: ks)]

theorem Alike.follow_eq (h : t.Alike t') (start : Location) (parts : List Path.Part) :
    t'.follow start parts = t.follow start parts := by
  induction parts generalizing start with
  | nil => rfl
  | cons part parts ih =>
    rcases h.get?_cases start with ⟨hl, hl'⟩ | ⟨c, c', hl, hl'⟩ | ⟨es, es', hl, hl'⟩
    · simp only [follow, hl, hl']
    · simp only [follow, hl, hl']
    · cases part <;> simp only [follow, hl, hl', ih]

theorem Alike.locate_eq (h : t.Alike t') (base : Location) (p : Path) :
    t'.locate base p = t.locate base p := by
  rw [locate, locate, h.follow_eq]

theorem Alike.holds_eq (h : t.Alike t') (base : Location) (p : Path) :
    t'.holds base p = t.holds base p := by
  rw [holds, holds, find?, find?, h.locate_eq]
  cases t.locate base p with
  | error e => rfl
  | ok l => exact h.isSome_eq l

/-! ## Changes to both -/

/-- The same step on both fails for the same reason, or leaves them alike. -/
inductive AlikeStep : Except FileError FileTree → Except FileError FileTree → Prop
  | error (e : FileError) : AlikeStep (.error e) (.error e)
  | ok {t t' : FileTree} : t.Alike t' → AlikeStep (.ok t) (.ok t')

theorem Alike.ensureDirectory (h : t.Alike t') (start : Location) (parts : List Path.Part) :
    AlikeStep (t.ensureDirectory start parts) (t'.ensureDirectory start parts) := by
  rw [FileTree.ensureDirectory, FileTree.ensureDirectory, h.follow_eq]
  cases t.follow start parts with
  | error e => exact .error e
  | ok l =>
    rcases h.get?_cases l with ⟨hl, hl'⟩ | ⟨c, c', hl, hl'⟩ | ⟨es, es', hl, hl'⟩
    · simp only [bind, Except.bind, hl, hl']
      exact .ok (h.put l (.refl empty))
    · simp only [bind, Except.bind, hl, hl']
      exact .error .fileExists
    · simp only [bind, Except.bind, hl, hl']
      exact .ok h

theorem Alike.write (h : t.Alike t') (base : Location) (p : Path) (content : String) :
    AlikeStep (t.write base p content) (t'.write base p content) := by
  rw [FileTree.write, FileTree.write, h.follow_eq, h.locate_eq]
  split
  · cases t.follow (startOf base p) p.parts.dropLast with
    | error e => exact .error e
    | ok l => exact .error .isDirectory
  · cases t.locate base p with
    | error e => exact .error e
    | ok l =>
      rcases h.get?_cases l with ⟨hl, hl'⟩ | ⟨c, c', hl, hl'⟩ | ⟨es, es', hl, hl'⟩
      · simp only [bind, Except.bind, hl, hl']
        exact .ok (h.put l (.refl _))
      · simp only [bind, Except.bind, hl, hl']
        exact .ok (h.put l (.refl _))
      · simp only [bind, Except.bind, hl, hl']
        exact .error .isDirectory

/-- The same change of several steps to both is broken off for the same reason, if it is, and
leaves them alike. -/
structure AlikeAttempt (a a' : Attempt) : Prop where
  tree : a.tree.Alike a'.tree
  fault_eq : a'.fault = a.fault

theorem AlikeStep.attempt (h : t.Alike t') {r r' : Except FileError FileTree}
    (hr : AlikeStep r r') : AlikeAttempt (.ofStep t r) (.ofStep t' r') := by
  cases hr with
  | error e => exact ⟨h, rfl⟩
  | ok hafter => exact ⟨hafter, rfl⟩

theorem AlikeAttempt.next {a a' : Attempt} (h : AlikeAttempt a a')
    {step : FileTree → Except FileError FileTree}
    (hstep : ∀ t t', t.Alike t' → AlikeStep (step t) (step t')) :
    AlikeAttempt (a.next step) (a'.next step) := by
  rw [Attempt.next, Attempt.next, h.fault_eq]
  cases a.fault with
  | none => exact (hstep _ _ h.tree).attempt h.tree
  | some e => exact h

theorem Alike.makeDirectories (h : t.Alike t') (start : Location) (trail : List Path.Part) :
    AlikeAttempt (t.makeDirectories start trail) (t'.makeDirectories start trail) := by
  induction trail with
  | nil => exact ⟨h, rfl⟩
  | cons part trail ih =>
    have hstep (u u' : FileTree) (hu : u.Alike u') :
        AlikeStep (u.ensureDirectory start (part :: trail).reverse)
          (u'.ensureDirectory start (part :: trail).reverse) := hu.ensureDirectory start _
    have hfirst := hstep t t' h
    rw [FileTree.makeDirectories, FileTree.makeDirectories]
    generalize t.ensureDirectory start (part :: trail).reverse = r at hfirst ⊢
    generalize t'.ensureDirectory start (part :: trail).reverse = r' at hfirst ⊢
    cases hfirst with
    | ok hafter => exact ⟨hafter, rfl⟩
    | error e =>
      -- Only a missing way is made; any other fault ends the change.
      cases e with
      | noSuchFile => exact ih.next hstep
      | fileExists | notDirectory | isDirectory => exact ⟨h, rfl⟩

/-- A change of two trees that comes to the same: the same places afterwards, and each file the same
in both or as it was. -/
structure SameChange (t t' after after' : FileTree) : Prop where
  alike : after.Alike after'
  content?_cases : ∀ l, after'.content? l = after.content? l ∨
    (after.content? l = t.content? l ∧ after'.content? l = t'.content? l)

theorem Alike.unchanged (h : t.Alike t') : SameChange t t' t t' where
  alike := h
  content?_cases _ := .inr ⟨rfl, rfl⟩

end FileTree

namespace Settings

open FileTree (Alike AlikeAttempt SameChange)

variable {t t' : FileTree}

theorem alike_saveAttempt (h : t.Alike t') (s : Settings) (here : Location) (p : Path) :
    AlikeAttempt (saveAttempt s t here p) (saveAttempt s t' here p) :=
  (h.makeDirectories _ _).next fun _ _ hu => hu.write here p s.toToml

/-- A fresh settings file comes to the same end in both. -/
theorem alike_initAttempt (h : t.Alike t') (here : Location) (folder : Path) (force : Bool) :
    (initAttempt t here folder force).1.Alike (initAttempt t' here folder force).1 ∧
      (initAttempt t' here folder force).2 = (initAttempt t here folder force).2 := by
  rw [initAttempt, initAttempt, h.holds_eq]
  split
  · exact ⟨h, rfl⟩
  · have hsave := alike_saveAttempt h {} here (fileBelow folder)
    generalize saveAttempt {} t here (fileBelow folder) = a at hsave ⊢
    generalize saveAttempt {} t' here (fileBelow folder) = a' at hsave ⊢
    simp only [hsave.fault_eq]
    cases a.fault with
    | none => exact ⟨hsave.tree, rfl⟩
    | some e => exact ⟨hsave.tree, rfl⟩

/-- A fresh settings file is the same one in both. -/
theorem sameChange_initAttempt (h : t.Alike t') (here : Location) (folder : Path) (force : Bool) :
    SameChange t t' (initAttempt t here folder force).1 (initAttempt t' here folder force).1 := by
  obtain ⟨halike, hresult'⟩ := alike_initAttempt h here folder force
  refine ⟨halike, fun l => ?_⟩
  cases hresult : (initAttempt t here folder force).2 with
  | error e =>
    rw [hresult] at hresult'
    exact .inr ⟨content?_of_error hresult l, content?_of_error hresult' l⟩
  | ok p =>
    rw [hresult] at hresult'
    obtain ⟨above, hfollow, -, hfresh⟩ := fresh_of_ok hresult
    obtain ⟨above', hfollow', -, hfresh'⟩ := fresh_of_ok hresult'
    rw [halike.follow_eq, hfollow] at hfollow'
    cases hfollow'
    by_cases hl : l = place above
    · subst hl
      exact .inl (hfresh'.here.trans hfresh.here.symm)
    · exact .inr ⟨hfresh.elsewhere l hl, hfresh'.elsewhere l hl⟩

/-! ## Variables that are no settings -/

namespace Environment

/-- Variables that name no setting do not count. -/
theorem layer_filter {counts : String × String → Bool}
    (h : ∀ v, counts v = false → path? v.1 = none) (environment : List (String × String)) :
    layer (environment.filter counts) = layer environment := by
  rw [layer, layer, List.foldl_filter]
  congr
  funext below v
  obtain ⟨name, text⟩ := v
  by_cases hv : counts (name, text) = true
  · rw [if_pos hv]
  · rw [if_neg hv]
    show below = add below name text
    rw [add, h (name, text) (Bool.eq_false_iff.2 hv)]

end Environment

end Settings

/-! ## Commands -/

namespace Command

/-- No command but the one that shows the settings looks at the logging section. -/
theorem execute_congr {c : Command} (hc : c ≠ .config) (s : Settings) (logging : LoggingConfig)
    (tree : FileTree) (here : Location) :
    c.execute { s with logging := logging } tree here = c.execute s tree here := by
  cases c with
  | config => exact absurd rfl hc
  | demo | selfCheck | sum | product | run | outline | init => rfl

/-- A command does the same in trees that are alike. -/
theorem perform_alike {t t' : FileTree} (h : t.Alike t') (c : Command) (s : Settings) (json : Bool)
    (here : Location) :
    (c.perform s json t' here).ending = (c.perform s json t here).ending ∧
      (c.perform s json t' here).stdout = (c.perform s json t here).stdout ∧
      FileTree.SameChange t t' (c.perform s json t here).tree (c.perform s json t' here).tree := by
  cases c with
  | demo | selfCheck | sum | product | run | outline | config => exact ⟨rfl, rfl, h.unchanged⟩
  | init force =>
    obtain ⟨-, hresult⟩ := Settings.alike_initAttempt h here (.ofLocation here) force
    have hchange := Settings.sameChange_initAttempt h here (.ofLocation here) force
    simp only [perform, execute, Settings.initFile]
    generalize Settings.initAttempt t here (.ofLocation here) force = r at hresult hchange ⊢
    generalize Settings.initAttempt t' here (.ofLocation here) force = r' at hresult hchange ⊢
    obtain ⟨after, result⟩ := r
    obtain ⟨after', result'⟩ := r'
    cases hresult
    rcases result with (p | e) | p
    · exact ⟨rfl, rfl, h.unchanged⟩
    · exact ⟨rfl, rfl, h.unchanged⟩
    · exact ⟨rfl, rfl, hchange⟩

end Command

/-! ## Runs -/

/-- Two runs, each in a tree of its own, that print and end the same and change the same. -/
structure Finish.Matches (f f' : Finish) (before before' : FileTree) : Prop where
  stdout_eq : f'.stdout = f.stdout
  exitCode_eq : f'.exitCode = f.exitCode
  tree : FileTree.SameChange before before' f.tree f'.tree

namespace Program

variable {w w' : Workspace} {json : Bool} {c : Command} {s : Settings}

/-- How a command ends decides on the exit code. -/
theorem exitCode_carryOut (w : Workspace) (json : Bool) (c : Command) (s : Settings) :
    (carryOut w json c s).exitCode =
      match (c.perform s json w.tree w.here).ending with
      | .ok status => status.code
      | .error _ => ExitStatus.usage.code := by
  rw [carryOut]
  cases (c.perform s json w.tree w.here).ending <;> rfl

/-- With another logging section, and any other variables, a command prints and ends the same and
leaves the same tree. -/
theorem carryOut_logging (hc : c ≠ .config) (htree : w'.tree = w.tree) (hhere : w'.here = w.here)
    (json : Bool) (s : Settings) (logging : LoggingConfig) :
    let f := carryOut w json c s
    let f' := carryOut w' json c { s with logging := logging }
    f'.stdout = f.stdout ∧ f'.exitCode = f.exitCode ∧ f'.tree = f.tree := by
  have hperform := Command.execute_congr hc s logging w.tree w.here
  simp only [exitCode_carryOut]
  simp only [carryOut, Command.perform, htree, hhere, hperform]
  exact ⟨trivial, trivial, trivial⟩

/-- In a tree that is alike, a command does the same. -/
theorem carryOut_alike (htree : w.tree.Alike w'.tree) (hhere : w'.here = w.here) (json : Bool)
    (c : Command) (s : Settings) :
    (carryOut w json c s).Matches (carryOut w' json c s) w.tree w'.tree := by
  obtain ⟨tree, here, environment⟩ := w
  obtain ⟨tree', here', environment'⟩ := w'
  cases hhere
  obtain ⟨hending, hstdout, hchange⟩ := Command.perform_alike htree c s json here
  refine ⟨hstdout, ?_, hchange⟩
  rw [exitCode_carryOut, exitCode_carryOut, hending]

theorem path?_filterVariable : Settings.Environment.path? filterVariable = none := rfl

/-- The variable of the log filter is none of the settings. -/
theorem settings_environment {environment : List (String × String)}
    (h : environment.filter (·.1 ≠ filterVariable) = w.environment.filter (·.1 ≠ filterVariable))
    (config : Option String) :
    settings { w with environment := environment } config = settings w config := by
  have hvariable (v : String × String) (hv : decide (v.1 ≠ filterVariable) = false) :
      Settings.Environment.path? v.1 = none := by
    rw [decide_eq_false_iff_not, not_not] at hv
    rw [hv, path?_filterVariable]
  have hlayer : Settings.Environment.layer environment =
      Settings.Environment.layer w.environment := by
    rw [← Settings.Environment.layer_filter hvariable, h,
      Settings.Environment.layer_filter hvariable]
  have hload (p : Path) :
      Settings.loadFrom { w with environment := environment } p = Settings.loadFrom w p := by
    simp only [Settings.loadFrom, Settings.layers, hlayer]
    rfl
  cases config with
  | none =>
    simp only [settings, Settings.load, hload]
    rfl
  | some text =>
    simp only [settings, hload]
    rfl

/-- **Logging only adds to the messages.** Whatever the logging section says, and whatever the
variable of the filter is set to, a command other than the one that shows the settings prints the
same to the standard output, ends with the same exit code and leaves the same files. Where the
section comes from another settings file, that file is of course another one as well. -/
theorem run_isolated {args : List String} {line : CommandLine}
    (hline : CommandLine.parse args = .ok line) (hcommand : line.command ≠ .config)
    (hsettings : settings w line.config = .ok s) :
    ∃ finish, run w args = .ok finish ∧
      (∀ environment logging,
        let finish' := carryOut { w with environment := environment } line.json line.command
          { s with logging := logging }
        finish'.stdout = finish.stdout ∧ finish'.exitCode = finish.exitCode ∧
          finish'.tree = finish.tree) ∧
      (∀ environment, environment.filter (·.1 ≠ filterVariable) =
          w.environment.filter (·.1 ≠ filterVariable) →
        ∃ finish', run { w with environment := environment } args = .ok finish' ∧
          finish'.stdout = finish.stdout ∧ finish'.exitCode = finish.exitCode ∧
          finish'.tree = finish.tree) ∧
      ∀ w' logging, w'.here = w.here → w.tree.Alike w'.tree →
        settings w' line.config = .ok { s with logging := logging } →
        ∃ finish', run w' args = .ok finish' ∧ finish.Matches finish' w.tree w'.tree := by
  refine ⟨_, run_settled hline hsettings, fun environment logging => ?_, fun environment h => ?_,
    fun w' logging hhere htree hsettings' => ?_⟩
  · exact carryOut_logging hcommand rfl rfl line.json s logging
  · have hsame := (settings_environment h line.config).trans hsettings
    exact ⟨_, run_settled hline hsame, carryOut_logging hcommand rfl rfl line.json s s.logging⟩
  · obtain ⟨hstdout, hexit, hleft⟩ :=
      carryOut_logging hcommand (w := w') rfl rfl line.json s logging
    have hmatches := carryOut_alike htree hhere line.json line.command s
    refine ⟨_, run_settled hline hsettings', ?_, ?_, ?_⟩
    · rw [hstdout, hmatches.stdout_eq]
    · rw [hexit, hmatches.exitCode_eq]
    · rw [hleft]
      exact hmatches.tree

/-- A workspace with saved settings and a variable for the log. -/
def filed (s : Settings) (filter : String) : Workspace where
  tree := FileTree.empty.put (Settings.place []) (.file s.toToml)
  here := []
  environment := [(filterVariable, filter)]

theorem settings_filed (s : Settings) (filter : String) :
    settings (filed s filter) none = .ok s := by
  have hfolder : Settings.nearestFolder? (filed s filter) = some [] := rfl
  have hsearch : (filed s filter).search? (.ofLocation (Settings.place [])) =
      some (.ofLocation (Settings.place []), s.toToml) := by
    rw [Settings.search?_place _ (List.forall_mem_nil _)]
    rfl
  have henv : ∀ v ∈ (filed s filter).environment, Settings.Environment.path? v.1 = none := by
    intro v hv
    cases List.mem_singleton.1 hv
    exact path?_filterVariable
  rw [settings, Settings.load_of_folder hfolder,
    Settings.loadFrom_of_search hsearch (Settings.parse?_toToml s) henv]
  rfl

/-- The settings of a log with directives that mean nothing. -/
def loud : Settings := { logging := { default := "=,[" } }

/-- A settings file is made anew under two logs. -/
theorem run_isolated_init :
    ∃ finish finish', run (filed {} "off") ["init", "--force"] = .ok finish ∧
      run (filed loud "calculator=]") ["init", "--force"] = .ok finish' ∧
      finish.Matches finish' (filed {} "off").tree (filed loud "calculator=]").tree := by
  have hline : CommandLine.parse ["init", "--force"] = .ok ⟨none, false, .init true⟩ := rfl
  have halike : (filed {} "off").tree.Alike (filed loud "calculator=]").tree :=
    (FileTree.Alike.refl .empty).put _ (FileTree.alike_file _ _)
  obtain ⟨finish, hrun, -, -, hother⟩ :=
    run_isolated hline nofun (settings_filed {} "off")
  obtain ⟨finish', hrun', hmatches⟩ :=
    hother (filed loud "calculator=]") loud.logging rfl halike (settings_filed loud "calculator=]")
  exact ⟨finish, finish', hrun, hrun', hmatches⟩

end Program

end Abacus
