import Abacus.Proofs.Text.Blanks
import Abacus.Workspace

/-!
# A file that was written is found

Writing a file leaves all directories where they were: it puts a file where there was none, or none
but a file (`isDirectoryAt_put`). So a path that led somewhere still does, and a file is found under
the path under which it was written, from the directory where that happened (`search?_write`).
-/

namespace Abacus

/-! ## Paths of locations -/

namespace Location

theorem fromRoot_eq (l : Location) : ∃ above, l.fromRoot = above ++ [l] := by
  induction l with
  | nil => exact ⟨[], rfl⟩
  | cons n ns ih =>
    obtain ⟨above, h⟩ := ih
    exact ⟨[] :: above.map (n :: ·), by simp [fromRoot, h]⟩

/-- The nearest place above a location is itself. -/
theorem ancestors_eq (l : Location) : ∃ above, l.ancestors = l :: above := by
  obtain ⟨above, h⟩ := l.fromRoot_eq
  exact ⟨above.reverse, by simp [ancestors, h]⟩

end Location

namespace Path

/-- A text that names a file or a directory, and no step. -/
def IsName (n : String) : Prop := '/' ∉ n.toList ∧ Part.ofPiece n.toList = .name n

instance (n : String) : Decidable (IsName n) := inferInstanceAs (Decidable (_ ∧ _))

theorem parts_ne_nil (p : Path) : p.parts ≠ [] := by
  simp [parts, Text.pieces_ne_nil]

theorem IsName.ne_nil {n : String} (h : IsName n) : n.toList ≠ [] := by
  intro hnil
  have hpiece := h.2
  rw [hnil] at hpiece
  cases hpiece

/-- The names of a location, each with a slash behind it. -/
def slashed (here : Location) : List Char := here.flatMap fun n => n.toList ++ ['/']

theorem toList_joined {here : Location} (hne : here ≠ []) :
    (Text.joined "/" here).toList ++ ['/'] = slashed here := by
  induction here with
  | nil => exact absurd rfl hne
  | cons n here ih =>
    cases here with
    | nil => simp [Text.joined, slashed]
    | cons m here =>
      have htail := ih (by simp)
      simp only [Text.joined, String.toList_append, List.append_assoc, slashed,
        List.flatMap_cons] at htail ⊢
      rw [htail]
      rfl

/-- A location other than the root does not end in a slash. -/
theorem getLast?_joined {here : Location} (hne : here ≠ []) (hhere : ∀ n ∈ here, IsName n) :
    ∃ c, (Text.joined "/" here).toList.getLast? = some c ∧ c ≠ '/' := by
  induction here with
  | nil => exact absurd rfl hne
  | cons n here ih =>
    cases here with
    | nil =>
      have hn := hhere n List.mem_cons_self
      refine ⟨_, List.getLast?_eq_some_getLast hn.ne_nil, fun heq => hn.1 ?_⟩
      exact heq ▸ List.getLast_mem hn.ne_nil
    | cons m here =>
      obtain ⟨c, hlast, hc⟩ := ih (by simp) fun k hk => hhere k (List.mem_cons_of_mem _ hk)
      refine ⟨c, ?_, hc⟩
      rw [Text.joined, String.toList_append, List.getLast?_append, hlast]
      · rfl
      · simp

theorem pieces_slashed {here : Location} (hhere : ∀ n ∈ here, IsName n) (cs : List Char) :
    (Text.pieces '/' (slashed here ++ cs)).map Part.ofPiece =
      here.map .name ++ (Text.pieces '/' cs).map Part.ofPiece := by
  induction here with
  | nil => rfl
  | cons n here ih =>
    obtain ⟨hslash, hpiece⟩ := hhere n List.mem_cons_self
    have htail := ih fun k hk => hhere k (List.mem_cons_of_mem _ hk)
    have hsplit : slashed (n :: here) ++ cs = n.toList ++ '/' :: (slashed here ++ cs) := by
      simp [slashed]
    rw [hsplit, Text.pieces_append hslash, List.map_cons, hpiece, htail]
    rfl

/-- The text of a path that is followed from a location. -/
theorem toList_join {here : Location} (hhere : ∀ n ∈ here, IsName n) {p : Path}
    (hp : p.isAbsolute = false) :
    ((ofLocation here).join p).text.toList = '/' :: (slashed here ++ p.text.toList) := by
  have hrender : (ofLocation here).text.toList = '/' :: (Text.joined "/" here).toList := by
    simp [ofLocation, Location.render]
  have hne : (ofLocation here).text ≠ "" := by
    intro hempty
    rw [hempty] at hrender
    cases hrender
  by_cases hhere' : here = []
  · subst hhere'
    simp [join, hp, hne, hrender, Text.joined, slashed]
  · obtain ⟨c, hlast, hc⟩ := getLast?_joined hhere' hhere
    have hend : (ofLocation here).text.toList.getLast? ≠ some '/' := by
      rw [hrender, List.getLast?_cons, hlast]
      simpa using hc
    rw [join, if_neg (by simp [hp, hne]), if_neg hend, ← toList_joined hhere']
    simp [hrender]

/-- A path from a location starts with the names of that location. -/
theorem parts_join {here : Location} (hhere : ∀ n ∈ here, IsName n) {p : Path}
    (hp : p.isAbsolute = false) :
    ((ofLocation here).join p).parts = .here :: here.map .name ++ p.parts := by
  have hslash (cs : List Char) : Text.pieces '/' ('/' :: cs) = [] :: Text.pieces '/' cs := by
    simp [Text.pieces]
  rw [parts, toList_join hhere hp, hslash, List.map_cons, pieces_slashed hhere]
  rfl

theorem isAbsolute_join {here : Location} (hhere : ∀ n ∈ here, IsName n) {p : Path}
    (hp : p.isAbsolute = false) : ((ofLocation here).join p).isAbsolute = true := by
  rw [isAbsolute, toList_join hhere hp]
  rfl

end Path

/-! ## Writing -/

namespace FileTree

/-- Nothing but a directory has places below it. -/
theorem isDirectoryAt_of_append {t : FileTree} {above below : Location}
    (h : t.isDirectoryAt (above ++ below) = true) : t.isDirectoryAt above = true := by
  induction above generalizing t with
  | nil =>
    cases t with
    | directory es => rfl
    | file content =>
      cases below with
      | nil => exact h
      | cons n ns => cases h
  | cons a as ih =>
    simp only [isDirectoryAt, List.cons_append, get?] at h ⊢
    cases ha : t.entries.lookup a with
    | none => simp [ha] at h
    | some t' =>
      rw [ha] at h
      exact ih h

/-- A change where there is no directory leaves all directories. -/
theorem isDirectoryAt_put {t : FileTree} {l m : Location} (node : FileTree)
    (hl : t.isDirectoryAt l = false) (hm : t.isDirectoryAt m = true) :
    (t.put l node).isDirectoryAt m = true := by
  induction l generalizing t m with
  | nil =>
    have hroot := isDirectoryAt_of_append (show t.isDirectoryAt ([] ++ m) = true from hm)
    rw [hl] at hroot
    cases hroot
  | cons n ns ih =>
    cases m with
    | nil => rfl
    | cons k ks =>
      simp only [isDirectoryAt, put, get?, entries_directory, Entries.lookup_insert] at hl hm ⊢
      by_cases hk : k = n
      · subst hk
        rw [if_pos rfl]
        cases hget : t.entries.lookup k with
        | none => simp [hget] at hm
        | some t' =>
          simp only [hget] at hl hm
          exact ih hl hm
      · rw [if_neg hk]
        exact hm

/-- A step starts from a directory, ... -/
theorem follow_cons {t : FileTree} {start : Location} (h : t.isDirectoryAt start = true)
    (part : Path.Part) (rest : List Path.Part) :
    t.follow start (part :: rest) = match part with
      | .here => t.follow start rest
      | .up => t.follow start.dropLast rest
      | .name n => t.follow (start ++ [n]) rest := by
  cases hget : t.get? start with
  | none => simp [isDirectoryAt, hget] at h
  | some node =>
    cases node with
    | file content => simp [isDirectoryAt, hget] at h
    | directory es => cases part <;> simp [follow, hget]

/-- ... or it leads nowhere. -/
theorem isDirectoryAt_of_follow {t : FileTree} {start l : Location} {part : Path.Part}
    {rest : List Path.Part} (h : t.follow start (part :: rest) = .ok l) :
    t.isDirectoryAt start = true := by
  cases hget : t.get? start with
  | none => cases part <;> simp [follow, hget] at h
  | some node =>
    cases node with
    | file content => cases part <;> simp [follow, hget] at h
    | directory es => simp [isDirectoryAt, hget]

/-- A way along directories stays one where these are still directories. -/
theorem follow_mono {t t' : FileTree}
    (hdir : ∀ m, t.isDirectoryAt m = true → t'.isDirectoryAt m = true) {start l : Location}
    {parts : List Path.Part} (h : t.follow start parts = .ok l) :
    t'.follow start parts = .ok l := by
  induction parts generalizing start with
  | nil => exact h
  | cons part parts ih =>
    have hstart := isDirectoryAt_of_follow h
    rw [follow_cons hstart] at h
    rw [follow_cons (hdir start hstart)]
    cases part with
    | here | up | name => exact ih h

/-- A location is reached by its names. -/
theorem follow_names {t : FileTree} {start names : Location}
    (h : t.isDirectoryAt (start ++ names) = true) (rest : List Path.Part) :
    t.follow start (names.map .name ++ rest) = t.follow (start ++ names) rest := by
  induction names generalizing start with
  | nil => simp
  | cons n names ih =>
    have hsplit : start ++ n :: names = start ++ [n] ++ names := by simp
    rw [List.map_cons, List.cons_append, follow_cons (isDirectoryAt_of_append h)]
    rw [hsplit] at h ⊢
    exact ih h

/-- What a write does that succeeds. -/
theorem write_eq_ok {t t' : FileTree} {base : Location} {p : Path} {content : String}
    (h : t.write base p content = .ok t') :
    p.text ≠ "" ∧ ∃ l, t.follow (startOf base p) p.parts = .ok l ∧ t.isDirectoryAt l = false ∧
      t' = t.put l (.file content) := by
  rw [write] at h
  split at h
  next =>
    cases hfollow : t.follow (startOf base p) p.parts.dropLast <;> rw [hfollow] at h <;> cases h
  next =>
    rw [locate] at h
    split at h
    next => cases h
    next hne =>
      refine ⟨hne, ?_⟩
      cases hl : t.follow (startOf base p) p.parts with
      | error e =>
        rw [hl] at h
        cases h
      | ok l =>
        rw [hl] at h
        refine ⟨l, rfl, ?_⟩
        simp only [bind, Except.bind] at h
        split at h
        next => cases h
        next hnot =>
          cases h
          refine ⟨?_, rfl⟩
          rw [isDirectoryAt]
          split
          next es hget => exact absurd hget (hnot es)
          next => rfl

/-- **A file is read back from where it was written.** -/
theorem follow_write {t t' : FileTree} {base : Location} {p : Path} {content : String}
    (h : t.write base p content = .ok t') :
    p.text ≠ "" ∧ ∃ l, t'.follow (startOf base p) p.parts = .ok l ∧
      t'.get? l = some (.file content) := by
  obtain ⟨hne, l, hl, hnot, rfl⟩ := write_eq_ok h
  refine ⟨hne, l, follow_mono (fun m hm => isDirectoryAt_put _ hnot hm) hl, ?_⟩
  exact get?_put_self t l _

/-- What a path leads to from a directory, it leads to behind the path of that directory. -/
theorem locate_join {t : FileTree} {here l : Location} {p : Path}
    (hhere : ∀ n ∈ here, Path.IsName n) (hp : p.isAbsolute = false)
    (h : t.locate here p = .ok l) (base : Location) :
    t.locate base ((Path.ofLocation here).join p) = .ok l := by
  have hjoin : ((Path.ofLocation here).join p).text ≠ "" := by
    intro hempty
    have htext := Path.toList_join hhere hp
    rw [hempty] at htext
    cases htext
  rw [locate] at h
  split at h
  next => cases h
  next =>
    rw [startOf, hp, if_neg Bool.false_ne_true] at h
    obtain ⟨part, rest, hparts⟩ := List.exists_cons_of_ne_nil p.parts_ne_nil
    have hdir : t.isDirectoryAt ([] ++ here) = true := isDirectoryAt_of_follow (hparts ▸ h)
    rw [locate, if_neg hjoin, startOf, Path.isAbsolute_join hhere hp, if_pos rfl,
      Path.parts_join hhere hp, List.cons_append, follow_cons (isDirectoryAt_of_append hdir)]
    exact (follow_names hdir p.parts).trans h

end FileTree

namespace Workspace

/-- **A file to which a path leads is found there**, and not in a directory above. -/
theorem search?_of_read? {w : Workspace} {p : Path} {content : String}
    (hhere : ∀ n ∈ w.here, Path.IsName n) (h : w.tree.read? w.here p = some content) :
    w.search? p = some (w.herePath.join p, content) := by
  cases hp : p.isAbsolute with
  | true =>
    have hjoin : w.herePath.join p = p := by simp [Path.join, hp]
    simp [search?, hp, h, hjoin]
  | false =>
    have hread : w.tree.read? w.here ((Path.ofLocation w.here).join p) = some content := by
      rw [FileTree.read?, FileTree.find?] at h ⊢
      cases hl : w.tree.locate w.here p with
      | error e =>
        rw [hl] at h
        cases h
      | ok l =>
        rw [FileTree.locate_join hhere hp hl]
        rwa [hl] at h
    obtain ⟨above, habove⟩ := Location.ancestors_eq w.here
    simp [search?, hp, habove, hread, herePath]

/-- **A file that was written is found from the same directory under the same path.** -/
theorem search?_write {tree tree' : FileTree} {here : Location} {p : Path} {content : String}
    (hhere : ∀ n ∈ here, Path.IsName n) (h : tree.write here p content = .ok tree')
    (environment : List (String × String)) :
    ∃ q, search? ⟨tree', here, environment⟩ p = some (q, content) := by
  obtain ⟨hne, l, hl, hget⟩ := FileTree.follow_write h
  have hread : tree'.read? here p = some content := by
    simp [FileTree.read?, FileTree.find?, FileTree.locate, hne, hl, hget]
  exact ⟨_, search?_of_read? (w := ⟨tree', here, environment⟩) hhere hread⟩

end Workspace

end Abacus
