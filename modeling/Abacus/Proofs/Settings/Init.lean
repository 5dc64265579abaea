import Abacus.Proofs.Settings.Discovery
import Abacus.Proofs.Settings.Saved

/-!
# Fresh settings files

A call that makes a settings file comes to one of three ends (`Initialised`): it is refused, it
fails with some directories made, or it puts the defaults where the settings file of the directory
belongs. So a call that fails changes no file and one that succeeds changes one (`init_run`), and the
directories below find the defaults until that file is written again.

Without force a file that is there stays as it is (`Event.content?_after`), but for one case: the
check is made before missing directories are, and a path may go up from one of those
(`init_run_overwrites`).
-/

namespace Abacus

namespace FileTree

theorem follow_name {t : FileTree} {start : Location} (h : t.isDirectoryAt start = true)
    (n : String) (rest : List Path.Part) :
    t.follow start (.name n :: rest) = t.follow (start ++ [n]) rest :=
  follow_cons h (.name n) rest

/-! ## Ways that go up -/

/-- A way without steps up ends below its start. -/
theorem prefix_of_follow {t : FileTree} {start l : Location} {parts : List Path.Part}
    (h : t.follow start parts = .ok l) (hup : .up ∉ parts) : start <+: l := by
  induction parts generalizing start with
  | nil =>
    cases h
    exact List.prefix_rfl
  | cons part parts ih =>
    have hrest : .up ∉ parts := fun hmem => hup (List.mem_cons_of_mem part hmem)
    rw [follow_cons (isDirectoryAt_of_follow h)] at h
    cases part with
    | here => exact ih h hrest
    | up => exact absurd List.mem_cons_self hup
    | name n => exact (List.prefix_append start [n]).trans (ih h hrest)

/-- Each step up is made from a directory that is there. -/
def Grounded (t : FileTree) (start : Location) (parts : List Path.Part) : Prop :=
  ∀ way rest, parts = way ++ .up :: rest →
    ∃ l, t.follow start way = .ok l ∧ t.isDirectoryAt l = true

/-- A way that can be followed once more directories are there could be followed before, if it ends
in a directory from before and goes up from such directories only. -/
theorem follow_of_grounded {t t' : FileTree} {start l : Location} {parts : List Path.Part}
    (hground : t.Grounded start parts) (hl : t.isDirectoryAt l = true)
    (h : t'.follow start parts = .ok l) : t.follow start parts = .ok l := by
  induction parts generalizing start with
  | nil => exact h
  | cons part parts ih =>
    -- A step up leaves from the start or from behind it; without one the way ends below the start.
    have hstart : t.isDirectoryAt start = true := by
      by_cases hup : .up ∈ part :: parts
      · obtain ⟨way, rest, hsplit⟩ := List.append_of_mem hup
        obtain ⟨m, hm, hdir⟩ := hground way rest hsplit
        cases way with
        | nil =>
          cases hm
          exact hdir
        | cons => exact isDirectoryAt_of_follow hm
      · obtain ⟨below, rfl⟩ := prefix_of_follow h hup
        exact isDirectoryAt_of_append hl
    have hrest {next : Location}
        (hnext : ∀ way, t.follow start (part :: way) = t.follow next way) :
        t.Grounded next parts := by
      intro way rest hsplit
      obtain ⟨m, hm, hdir⟩ := hground (part :: way) rest (by rw [hsplit, List.cons_append])
      exact ⟨m, hnext way ▸ hm, hdir⟩
    rw [follow_cons (isDirectoryAt_of_follow h)] at h
    rw [follow_cons hstart]
    cases part with
    | here | up | name => exact ih (hrest fun way => follow_cons hstart _ way) h

end FileTree

namespace Settings

/-! ## The file below a directory -/

/-- Its parts are those of the directory and two names. -/
theorem parts_fileBelow (folder : Path) :
    ∃ way : List Path.Part, (folder.parts = way ∨ folder.parts = way ++ [.here]) ∧
      (fileBelow folder).parts = way ++ [.name folderName, .name fileName] ∧
      (fileBelow folder).isAbsolute = folder.isAbsolute := by
  have hfolder : Path.isAbsolute ⟨folderName⟩ = false := by decide
  have hfile : Path.isAbsolute ⟨fileName⟩ = false := by decide
  obtain ⟨way, hway, hparts, habsolute⟩ := folder.parts_join_of_relative hfolder
  obtain ⟨way', hway', hparts', habsolute'⟩ :=
    (folder.join ⟨folderName⟩).parts_join_of_relative hfile
  rw [hparts, show Path.parts ⟨folderName⟩ = [.name folderName] by decide] at hway'
  refine ⟨way, hway, ?_, habsolute'.trans habsolute⟩
  rcases hway' with rfl | hhere
  · rw [fileBelow, hparts', show Path.parts ⟨fileName⟩ = [.name fileName] by decide,
      List.append_assoc]
    rfl
  · cases (List.append_inj' hhere rfl).2

theorem place_eq (above : Location) : place above = above ++ [folderName] ++ [fileName] := by
  rw [List.append_assoc]
  rfl

/-- The path of the file leads to the place of the file, if there is a settings folder. -/
theorem locate_fileBelow {t : FileTree} {here l : Location} {folder : Path} :
    t.locate here (fileBelow folder) = .ok l ↔
      ∃ above, t.follow (FileTree.startOf here folder) folder.parts = .ok above ∧
        t.isDirectoryAt (above ++ [folderName]) = true ∧ l = place above := by
  obtain ⟨way, hway, hparts, habsolute⟩ := parts_fileBelow folder
  have htext : (fileBelow folder).text ≠ "" := by
    intro hempty
    rw [Path.parts, hempty] at hparts
    have hlength := congrArg List.length hparts
    simp [Text.pieces] at hlength
  rw [FileTree.locate, if_neg htext, FileTree.startOf, habsolute, ← FileTree.startOf, hparts]
  constructor
  · intro h
    obtain ⟨above, habove, h⟩ := FileTree.exists_middle_of_follow h
    have hdir := FileTree.isDirectoryAt_of_follow h
    rw [FileTree.follow_name hdir] at h
    have hfolder := FileTree.isDirectoryAt_of_follow h
    rw [FileTree.follow_name hfolder] at h
    refine ⟨above, ?_, hfolder, ?_⟩
    · rcases hway with hway | hway
      · rw [hway, habove]
      · rw [hway, FileTree.follow_append_of_ok habove, FileTree.follow_cons hdir]
        rfl
    · cases h
      exact (place_eq above).symm
  · rintro ⟨above, habove, hfolder, rfl⟩
    have hdir := FileTree.isDirectoryAt_of_append hfolder
    have hfollow : t.follow (FileTree.startOf here folder) way = .ok above := by
      rcases hway with hway | hway
      · rwa [hway] at habove
      · rw [hway] at habove
        obtain ⟨middle, hmiddle, hhere⟩ := FileTree.exists_middle_of_follow habove
        rw [FileTree.follow_cons (FileTree.isDirectoryAt_of_follow hhere)] at hhere
        cases hhere
        exact hmiddle
    rw [FileTree.follow_append_of_ok hfollow, FileTree.follow_name hdir,
      FileTree.follow_name hfolder, place_eq]
    rfl

/-- Where something is at the place of the file, the path of the file leads to it. -/
theorem holds_fileBelow {t : FileTree} {here above : Location} {folder : Path}
    (habove : t.follow (FileTree.startOf here folder) folder.parts = .ok above)
    (h : (t.get? (place above)).isSome = true) : t.holds here (fileBelow folder) = true := by
  obtain ⟨node, hnode⟩ := Option.isSome_iff_exists.1 h
  have hfolder : t.isDirectoryAt (above ++ [folderName]) = true :=
    FileTree.isDirectoryAt_of_get? (place_eq above ▸ hnode)
  rw [FileTree.holds, FileTree.find?, locate_fileBelow.2 ⟨above, habove, hfolder, rfl⟩]
  exact h

/-! ## One call -/

/-- Saving makes directories first, and then it writes the file if it still can. -/
theorem saveAttempt_cases (s : Settings) (t : FileTree) (here : Location) (p : Path) :
    (∃ t' e, t.Extends t' ∧ saveAttempt s t here p = ⟨t', some e⟩) ∨
      ∃ ready l, t.Extends ready ∧ ready.locate here p = .ok l ∧ ready.isDirectoryAt l = false ∧
        saveAttempt s t here p = ⟨ready.put l (.file s.toToml), none⟩ := by
  have hready : t.Extends (t.makeParent here p).tree := FileTree.extends_makeDirectories t _ _
  rw [saveAttempt]
  generalize t.makeParent here p = made at hready ⊢
  obtain ⟨ready, fault⟩ := made
  cases fault with
  | some e => exact .inl ⟨ready, e, hready, rfl⟩
  | none =>
    have hnext : FileTree.Attempt.next ⟨ready, none⟩ (fun tree => tree.write here p s.toToml) =
        .ofStep ready (ready.write here p s.toToml) := rfl
    rw [hnext]
    cases hwrite : ready.write here p s.toToml with
    | error e => exact .inl ⟨ready, e, hready, rfl⟩
    | ok t' =>
      obtain ⟨htext, l, hl, hnot, rfl⟩ := FileTree.write_eq_ok hwrite
      exact .inr ⟨ready, l, hready, by rw [FileTree.locate, if_neg htext, hl], hnot, rfl⟩

/-- How a call may end. -/
inductive Initialised (t : FileTree) (here : Location) (folder : Path) (force : Bool) :
    FileTree × Except InitError Path → Prop
  /-- Something is there already. -/
  | refused : force = false → t.holds here (fileBelow folder) = true →
      Initialised t here folder force (t, .error (.alreadyExists (fileBelow folder)))
  /-- Directories may have been made, but no file was. -/
  | failed {t' : FileTree} (e : FileError) : t.Extends t' →
      Initialised t here folder force (t', .error (.io e))
  /-- All directories are there, and so is the file. -/
  | made {ready : FileTree} {above : Location} :
      (force = false → t.holds here (fileBelow folder) = false) → t.Extends ready →
      ready.follow (FileTree.startOf here folder) folder.parts = .ok above →
      ready.isDirectoryAt (above ++ [folderName]) = true →
      ready.isDirectoryAt (place above) = false →
      Initialised t here folder force
        (ready.put (place above) (.file (toToml {})), .ok (fileBelow folder))

theorem initialised (t : FileTree) (here : Location) (folder : Path) (force : Bool) :
    Initialised t here folder force (initAttempt t here folder force) := by
  by_cases hthere : (!force && t.holds here (fileBelow folder)) = true
  · have hcall : initAttempt t here folder force =
        (t, .error (.alreadyExists (fileBelow folder))) := by
      rw [initAttempt, if_pos hthere]
    rw [Bool.and_eq_true, Bool.not_eq_true'] at hthere
    rw [hcall]
    exact .refused hthere.1 hthere.2
  · have hclear (hforce : force = false) : t.holds here (fileBelow folder) = false := by
      rw [Bool.not_eq_true, hforce] at hthere
      exact hthere
    rw [initAttempt, if_neg hthere]
    rcases saveAttempt_cases {} t here (fileBelow folder) with
      ⟨t', e, hextends, hsave⟩ | ⟨ready, l, hextends, hlocate, hnot, hsave⟩
    · rw [hsave]
      exact .failed e hextends
    · obtain ⟨above, habove, hfolder, rfl⟩ := locate_fileBelow.1 hlocate
      rw [hsave]
      exact .made hclear hextends habove hfolder hnot

/-- A directory with a settings file is left alone without force. -/
theorem initAttempt_of_there {t : FileTree} {here above : Location} {folder : Path}
    (habove : t.follow (FileTree.startOf here folder) folder.parts = .ok above)
    (h : (t.get? (place above)).isSome = true) :
    initAttempt t here folder false = (t, .error (.alreadyExists (fileBelow folder))) := by
  simp [initAttempt, holds_fileBelow habove h]

/-- A call that fails changes no file. -/
theorem content?_of_error {t : FileTree} {here : Location} {folder : Path} {force : Bool}
    {e : InitError} (h : (initAttempt t here folder force).2 = .error e) (l : Location) :
    (initAttempt t here folder force).1.content? l = t.content? l := by
  have hend := initialised t here folder force
  generalize initAttempt t here folder force = r at h hend
  cases hend with
  | refused => rfl
  | failed e hextends => exact hextends.content?_eq l
  | made => cases h

/-- The files after a call that put the defaults at a place. -/
structure Fresh (t t' : FileTree) (above : Location) : Prop where
  here : t'.content? (place above) = some (toToml {})
  elsewhere : ∀ l, l ≠ place above → t'.content? l = t.content? l

theorem fresh_put {t ready : FileTree} {above : Location} (hready : t.Extends ready)
    (hfolder : ready.isDirectoryAt (above ++ [folderName]) = true)
    (hnot : ready.isDirectoryAt (place above) = false) :
    Fresh t (ready.put (place above) (.file (toToml {}))) above where
  here := FileTree.content?_eq_some.2 (FileTree.get?_put_self ready _ _)
  elsewhere l hl := by
    rw [place_eq] at hnot hl ⊢
    rw [FileTree.content?_put_of_ne hfolder hnot rfl hl, hready.content?_eq]

/-- A call that succeeds puts the defaults where its path leads. -/
theorem fresh_of_ok {t : FileTree} {here : Location} {folder p : Path} {force : Bool}
    (h : (initAttempt t here folder force).2 = .ok p) :
    ∃ above,
      (initAttempt t here folder force).1.follow (FileTree.startOf here folder) folder.parts =
        .ok above ∧
      (initAttempt t here folder force).1.locate here p = .ok (place above) ∧
      Fresh t (initAttempt t here folder force).1 above := by
  have hend := initialised t here folder force
  generalize initAttempt t here folder force = r at h hend ⊢
  cases hend with
  | refused => cases h
  | failed => cases h
  | @made ready above _ hready hfollow hfolder hnot =>
    cases h
    have hdir (m : Location) : ready.isDirectoryAt m = true →
        (ready.put (place above) (.file (toToml {}))).isDirectoryAt m = true :=
      FileTree.isDirectoryAt_put _ hnot
    have habove := FileTree.follow_mono hdir hfollow
    exact ⟨above, habove, locate_fileBelow.2 ⟨above, habove, hdir _ hfolder, rfl⟩,
      fresh_put hready hfolder hnot⟩

/-- Without force, and with a path that goes up from existing directories only, a call keeps what
is there. -/
theorem content?_of_grounded {t : FileTree} {here l : Location} {folder : Path} {content : String}
    (hground : t.Grounded (FileTree.startOf here folder) folder.parts)
    (h : t.content? l = some content) :
    (initAttempt t here folder false).1.content? l = some content := by
  have hend := initialised t here folder false
  generalize initAttempt t here folder false = r at hend ⊢
  cases hend with
  | refused => exact h
  | failed e hextends => rwa [hextends.content?_eq]
  | @made ready above hclear hready hfollow hfolder hnot =>
    have hl : l ≠ place above := by
      -- The check would have found the file: its path led there before any directory was made.
      rintro rfl
      have hold := isDirectoryAt_of_content? h
      have habove := FileTree.follow_of_grounded hground
        (FileTree.isDirectoryAt_of_append hold) hfollow
      have hthere := holds_fileBelow habove (by rw [FileTree.content?_eq_some.1 h]; rfl)
      rw [hclear rfl] at hthere
      cases hthere
    rw [(fresh_put hready hfolder hnot).elsewhere l hl, h]

/-! ## Many calls -/

/-- What may happen to the tree: a call, or any change by others. -/
inductive Event where
  | init (here : Location) (folder : Path) (force : Bool)
  | others (after : FileTree)

namespace Event

/-- The tree after an event. -/
def after (t : FileTree) : Event → FileTree
  | init here folder force => (initAttempt t here folder force).1
  | others t' => t'

/-- The event does not write the file at a location. A call writes the file to which its path leads
afterwards, but a call without force is no write, as long as its path goes up from existing
directories only. -/
def Spares (t : FileTree) (l : Location) : Event → Prop
  | init here folder force =>
    (force = false ∧ t.Grounded (FileTree.startOf here folder) folder.parts) ∨
      ∀ p, (initAttempt t here folder force).2 = .ok p →
        (initAttempt t here folder force).1.locate here p ≠ .ok l
  | others t' => t'.content? l = t.content? l

/-- **What is there stays as it is in an event that does not write it.** -/
theorem content?_after {t : FileTree} {l : Location} {content : String} {e : Event}
    (he : e.Spares t l) (h : t.content? l = some content) :
    (e.after t).content? l = some content := by
  cases e with
  | others t' => exact he.trans h
  | init here folder force =>
    rcases he with ⟨rfl, hground⟩ | helse
    · exact content?_of_grounded hground h
    · cases hresult : (initAttempt t here folder force).2 with
      | error e => exact (content?_of_error hresult l).trans h
      | ok p =>
        obtain ⟨above, -, hlocate, hfresh⟩ := fresh_of_ok hresult
        have hl : l ≠ place above := fun heq => helse p hresult (heq ▸ hlocate)
        exact (hfresh.elsewhere l hl).trans h

/-- The tree after a sequence of events. -/
def afterAll (t : FileTree) (es : List Event) : FileTree := es.foldl after t

/-- None of a sequence of events writes the file at a location. -/
def AllSpare (l : Location) : FileTree → List Event → Prop
  | _, [] => True
  | t, e :: es => e.Spares t l ∧ AllSpare l (e.after t) es

/-- **What is there stays as it is until it is written.** -/
theorem content?_afterAll {l : Location} {content : String} {t : FileTree} {es : List Event}
    (hes : AllSpare l t es) (h : t.content? l = some content) :
    (afterAll t es).content? l = some content := by
  induction es generalizing t with
  | nil => exact h
  | cons e es ih => exact ih hes.2 (content?_after hes.1 h)

end Event

/-! ## Loading what was made -/

/-- Where the defaults are the settings of a directory, they are loaded there and below, from that
very file, unless a settings folder is nearer. -/
def LoadedBelow (t : FileTree) (above : Location) : Prop :=
  ∀ below environment, (∀ n ∈ above ++ below, Path.IsName n) →
    (∀ v ∈ environment, Environment.path? v.1 = none) →
    (∀ names, names ≠ [] → names <+: below →
      t.isDirectoryAt (above ++ names ++ [folderName]) = false) →
    workspaceFile? ⟨t, above ++ below, environment⟩ = some (.ofLocation (place above)) ∧
      load ⟨t, above ++ below, environment⟩ = .ok {}

theorem loadedBelow_of_content? {t : FileTree} {above : Location}
    (h : t.content? (place above) = some (toToml {})) : LoadedBelow t above := by
  intro below environment hhere henv hbetween
  have hfolder : nearestFolder? ⟨t, above ++ below, environment⟩ = some above :=
    Location.find?_ancestors_append (isDirectoryAt_of_content? h) hbetween
  constructor
  · rw [workspaceFile?_eq, hfolder]
    rfl
  · have hsearch : Workspace.search? ⟨t, above ++ below, environment⟩ (.ofLocation (place above)) =
        some (.ofLocation (place above), toToml {}) := by
      rw [search?_place _ (isName_of_nearestFolder? hhere hfolder), h]
      rfl
    rw [load_of_folder hfolder]
    exact loadFrom_of_search hsearch (parse?_toToml {}) henv

/-- On any tree, so also between the events of a sequence: a directory with a settings file is left
alone without force; what is there stays as it is until it is written; a call that fails changes no
file; and one that succeeds puts the defaults in one file and changes no other. Until that file is
written again the defaults are loaded in the directory and below. -/
theorem init_run (t : FileTree) (here : Location) (folder : Path) :
    (∀ above, t.follow (FileTree.startOf here folder) folder.parts = .ok above →
        (t.get? (place above)).isSome = true →
        initAttempt t here folder false = (t, .error (.alreadyExists (fileBelow folder)))) ∧
      (∀ es l content, t.content? l = some content → Event.AllSpare l t es →
        (Event.afterAll t es).content? l = some content) ∧
      ∀ force t' result, initAttempt t here folder force = (t', result) →
        (∀ e, result = .error e → ∀ l, t'.content? l = t.content? l) ∧
          ∀ p, result = .ok p → ∃ above,
            t'.follow (FileTree.startOf here folder) folder.parts = .ok above ∧
              t'.locate here p = .ok (place above) ∧
              t'.content? (place above) = some (toToml {}) ∧
              (∀ l, l ≠ place above → t'.content? l = t.content? l) ∧
              ∀ es, Event.AllSpare (place above) t' es →
                LoadedBelow (Event.afterAll t' es) above := by
  refine ⟨fun above habove h => initAttempt_of_there habove h,
    fun es l content h hes => Event.content?_afterAll hes h, fun force t' result hcall => ?_⟩
  constructor
  · rintro e rfl l
    have hframe := content?_of_error (congrArg Prod.snd hcall) l
    rwa [hcall] at hframe
  · rintro p rfl
    have hmade := fresh_of_ok (congrArg Prod.snd hcall)
    rw [hcall] at hmade
    obtain ⟨above, habove, hlocate, hfresh⟩ := hmade
    refine ⟨above, habove, hlocate, hfresh.here, hfresh.elsewhere, fun es hes => ?_⟩
    exact loadedBelow_of_content? (Event.content?_afterAll hes hfresh.here)

/-- A directory without anything in it. -/
def bare : FileTree := .directory [("d", .directory [])]

/-- The same with a settings file. -/
def furnished (content : String) : FileTree :=
  .directory [("d", .directory [(folderName, .directory [(fileName, .file content)])])]

theorem init_run_twice :
    initAttempt bare [] ⟨"d"⟩ false = (furnished (toToml {}), .ok (fileBelow ⟨"d"⟩)) ∧
      initAttempt (furnished (toToml {})) [] ⟨"d"⟩ false =
        (furnished (toToml {}), .error (.alreadyExists (fileBelow ⟨"d"⟩))) ∧
      load ⟨furnished (toToml {}), ["d", "e"], []⟩ = .ok {} := by
  have hcall : initAttempt bare [] ⟨"d"⟩ false =
      (furnished (toToml {}), .ok (fileBelow ⟨"d"⟩)) := by
    rfl
  have hfollow : (furnished (toToml {})).follow (FileTree.startOf [] ⟨"d"⟩) (Path.parts ⟨"d"⟩) =
      .ok ["d"] := by
    rfl
  have hagain := (init_run (furnished (toToml {})) [] ⟨"d"⟩).1 ["d"] hfollow rfl
  obtain ⟨above, habove, -, -, -, hload⟩ :=
    ((init_run bare [] ⟨"d"⟩).2.2 false _ _ hcall).2 _ rfl
  cases Except.ok.inj (hfollow.symm.trans habove)
  have hnames : ∀ n ∈ ["d", "e"], Path.IsName n := by decide
  have hspare : Event.AllSpare (place ["d"]) (furnished (toToml {})) [.init [] ⟨"d"⟩ false] := by
    refine ⟨.inl ⟨rfl, fun way rest hsplit => ?_⟩, trivial⟩
    have hup : .up ∈ Path.parts ⟨"d"⟩ := by
      rw [hsplit]
      exact List.mem_append_right way List.mem_cons_self
    exact absurd hup (by decide)
  have hafter : Event.afterAll (furnished (toToml {})) [.init [] ⟨"d"⟩ false] =
      furnished (toToml {}) := congrArg Prod.fst hagain
  have hbelow := hload _ hspare
  rw [hafter] at hbelow
  refine ⟨hcall, hagain, (hbelow ["e"] [] hnames nofun fun names hne hprefix => ?_).2⟩
  rcases List.prefix_cons_iff.1 hprefix with rfl | ⟨rest, rfl, hrest⟩
  · exact absurd rfl hne
  · rw [List.prefix_nil.1 hrest]
    rfl

/-- **A path that goes up from a missing directory overwrites a settings file without force.** -/
theorem init_run_overwrites :
    (furnished "version = 7\n").content? (place ["d"]) = some "version = 7\n" ∧
      (initAttempt (furnished "version = 7\n") [] ⟨"gone/../d"⟩ false).2 =
        .ok (fileBelow ⟨"gone/../d"⟩) ∧
      (initAttempt (furnished "version = 7\n") [] ⟨"gone/../d"⟩ false).1.content? (place ["d"]) =
        some (toToml {}) ∧
      toToml {} ≠ "version = 7\n" := by
  refine ⟨rfl, rfl, rfl, ?_⟩
  decide +kernel

end Settings

end Abacus
