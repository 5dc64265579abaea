import Abacus.Proofs.Workspace
import Mathlib.Data.List.Induction

/-!
# Places and the ways to them

The absolute path of a location is followed name by name, so reading it is looking at the location
(`FileTree.read?_ofLocation`). A path that is not absolute is followed behind another one
(`Path.parts_join_of_relative`).

Missing directories are made without a change to any file, whether or not all of them can be made
(`FileTree.extends_makeDirectories`), and a file that is put where no directory is changes no other
file (`FileTree.content?_put_of_ne`).
-/

namespace Abacus

/-! ## Paths -/

namespace Location

theorem fromRoot_concat (l : Location) (n : String) :
    fromRoot (l ++ [n]) = fromRoot l ++ [l ++ [n]] := by
  induction l with
  | nil => rfl
  | cons m ms ih =>
    rw [List.cons_append, fromRoot, ih, fromRoot, List.map_append]
    rfl

theorem ancestors_concat (l : Location) (n : String) :
    ancestors (l ++ [n]) = (l ++ [n]) :: ancestors l := by
  rw [ancestors, fromRoot_concat, List.reverse_append]
  rfl

theorem prefix_of_mem_ancestors {l above : Location} (h : above ∈ l.ancestors) : above <+: l := by
  induction l using List.reverseRecOn with
  | nil =>
    cases List.mem_singleton.1 h
    exact List.prefix_rfl
  | append_singleton l n ih =>
    rw [ancestors_concat] at h
    rcases List.mem_cons.1 h with rfl | h
    · exact List.prefix_rfl
    · exact (ih h).trans (List.prefix_append l [n])

/-- From below a place, it is the nearest with some property if none on the way up has it. -/
theorem find?_ancestors_append {p : Location → Bool} {above below : Location} (h : p above = true)
    (hbetween : ∀ names, names ≠ [] → names <+: below → p (above ++ names) = false) :
    (ancestors (above ++ below)).find? p = some above := by
  induction below using List.reverseRecOn with
  | nil =>
    obtain ⟨rest, hrest⟩ := ancestors_eq above
    rw [List.append_nil, hrest, List.find?_cons_of_pos h]
  | append_singleton below n ih =>
    have hlast := hbetween (below ++ [n]) (by simp) List.prefix_rfl
    rw [← List.append_assoc] at hlast ⊢
    rw [ancestors_concat, List.find?_cons_of_neg (by rw [hlast]; exact Bool.false_ne_true)]
    exact ih fun names hne hnames => hbetween names hne (hnames.trans (List.prefix_append below [n]))

end Location

namespace Path

theorem text_ne_of_isAbsolute {p : Path} (h : p.isAbsolute = true) : p.text ≠ "" := by
  intro hempty
  rw [isAbsolute, hempty] at h
  cases h

theorem isAbsolute_append {s : String} (hs : s ≠ "") (t : String) :
    isAbsolute ⟨s ++ t⟩ = isAbsolute ⟨s⟩ := by
  have hne : s.toList ≠ [] := by simpa using hs
  obtain ⟨c, cs, hcs⟩ := List.exists_cons_of_ne_nil hne
  simp only [isAbsolute, String.toList_append, hcs, List.cons_append]
  split
  next heq =>
    cases heq
    rfl
  next hne' =>
    split
    next heq =>
      cases heq
      exact absurd rfl (hne' _)
    next => rfl

/-- A path that is joined to another one is followed behind it. -/
theorem parts_join_of_relative (p : Path) {q : Path} (hq : q.isAbsolute = false) :
    ∃ way, (p.parts = way ∨ p.parts = way ++ [.here]) ∧ (p.join q).parts = way ++ q.parts ∧
      (p.join q).isAbsolute = p.isAbsolute := by
  by_cases hempty : p.text = ""
  · refine ⟨[], .inr ?_, ?_, ?_⟩
    · simp [parts, hempty, Text.pieces, Part.ofPiece]
    · simp [join, hempty]
    · rw [show p.join q = q by simp [join, hempty], hq, isAbsolute, hempty]
      rfl
  · by_cases hslash : p.text.toList.getLast? = some '/'
    · obtain ⟨cs, hcs⟩ := List.getLast?_eq_some_iff.1 hslash
      have hjoin : p.join q = ⟨p.text ++ q.text⟩ := by simp [join, hq, hempty, hslash]
      refine ⟨(Text.pieces '/' cs).map Part.ofPiece, .inr ?_, ?_, ?_⟩
      · simp [parts, hcs, Text.pieces_append_cons, Text.pieces, Part.ofPiece]
      · simp [hjoin, parts, hcs, Text.pieces_append_cons]
      · rw [hjoin, isAbsolute_append hempty]
    · have hjoin : p.join q = ⟨p.text ++ ("/" ++ q.text)⟩ := by
        simp [join, hq, hempty, hslash, String.append_assoc]
      refine ⟨p.parts, .inl rfl, ?_, ?_⟩
      · simp [hjoin, parts, Text.pieces_append_cons]
      · rw [hjoin, isAbsolute_append hempty]

theorem isAbsolute_ofLocation (l : Location) : (ofLocation l).isAbsolute = true := by
  simp [isAbsolute, ofLocation, Location.render]

/-- The absolute path of a location has its names as parts. -/
theorem parts_ofLocation {l : Location} (hne : l ≠ []) (hl : ∀ n ∈ l, IsName n) :
    (ofLocation l).parts = .here :: l.map .name := by
  have hslashed := pieces_slashed hl []
  rw [List.append_nil, ← toList_joined hne, Text.pieces_append_cons, List.map_append] at hslashed
  have hjoined : (Text.pieces '/' (Text.joined "/" l).toList).map Part.ofPiece = l.map .name :=
    List.append_cancel_right hslashed
  simp [parts, ofLocation, Location.render, Text.pieces, hjoined, Part.ofPiece]

end Path

/-! ## Looking along paths -/

namespace FileTree

theorem get?_append (t : FileTree) (above below : Location) :
    t.get? (above ++ below) = (t.get? above).bind (·.get? below) := by
  induction above generalizing t with
  | nil => simp
  | cons n above ih =>
    simp only [List.cons_append, get?]
    cases t.entries.lookup n with
    | none => rfl
    | some t' => exact ih t'

theorem get?_file (content : String) (n : String) (ns : Location) :
    (file content).get? (n :: ns) = none := rfl

/-- What has something below is a directory. -/
theorem isDirectoryAt_of_get? {t node : FileTree} {above : Location} {n : String} {ns : Location}
    (h : t.get? (above ++ n :: ns) = some node) : t.isDirectoryAt above = true := by
  rw [get?_append] at h
  obtain ⟨t', ht', h⟩ := Option.bind_eq_some_iff.1 h
  cases t' with
  | file content =>
    rw [get?_file] at h
    cases h
  | directory es => rw [isDirectoryAt, ht']

theorem content?_eq_some {t : FileTree} {l : Location} {content : String} :
    t.content? l = some content ↔ t.get? l = some (.file content) := by
  rw [content?]
  split
  next c hc => simp [hc]
  next hnot =>
    constructor
    · intro h
      cases h
    · intro h
      exact absurd h (hnot content)

theorem content?_of_isDirectoryAt {t : FileTree} {l : Location} (h : t.isDirectoryAt l = true) :
    t.content? l = none := by
  rw [isDirectoryAt] at h
  rw [content?]
  split at h
  next es hes => rw [hes]
  next => cases h

/-- Names are followed to what they name. -/
theorem eq_of_follow_names {t : FileTree} {start names l : Location}
    (h : t.follow start (names.map .name) = .ok l) : l = start ++ names := by
  induction names generalizing start with
  | nil =>
    cases h
    exact (List.append_nil _).symm
  | cons n names ih =>
    rw [List.map_cons, follow_cons (isDirectoryAt_of_follow h)] at h
    rw [ih h, List.append_assoc]
    rfl

/-- A file is reached by the names on the way to it. -/
theorem follow_names_of_get? {t node : FileTree} {start names : Location}
    (hne : names ≠ []) (h : t.get? (start ++ names) = some node) :
    t.follow start (names.map .name) = .ok (start ++ names) := by
  obtain ⟨init, n, rfl⟩ := List.eq_nil_or_concat names |>.resolve_left hne
  rw [List.concat_eq_append] at h ⊢
  rw [← List.append_assoc] at h
  have hdir := isDirectoryAt_of_get? h
  rw [List.map_append, follow_names hdir, List.map_singleton, follow_cons hdir,
    ← List.append_assoc]
  rfl

theorem read?_of_parts {t : FileTree} {p : Path} {names : Location} (hne : names ≠ [])
    (hp : p.isAbsolute = true) (hparts : p.parts = .here :: names.map .name) (base : Location) :
    t.read? base p = t.content? names := by
  have hlocate : t.locate base p = t.follow [] (.here :: names.map .name) := by
    rw [locate, if_neg (Path.text_ne_of_isAbsolute hp), startOf, hp, if_pos rfl, hparts]
  cases hget : t.get? names with
  | some node =>
    obtain ⟨n, ns, rfl⟩ := List.exists_cons_of_ne_nil hne
    have hroot : t.isDirectoryAt [] = true :=
      isDirectoryAt_of_get? (show t.get? ([] ++ n :: ns) = some node from hget)
    have hnames : t.follow [] ((n :: ns).map .name) = .ok (n :: ns) :=
      follow_names_of_get? hne (show t.get? ([] ++ n :: ns) = some node from hget)
    rw [follow_cons hroot, hnames] at hlocate
    simp only [read?, find?, hlocate, content?]
  | none =>
    rw [content?, hget, read?, find?, hlocate]
    cases hfollow : t.follow [] (.here :: names.map .name) with
    | error e => rfl
    | ok l =>
      rw [follow_cons (isDirectoryAt_of_follow hfollow)] at hfollow
      have hl : l = names := eq_of_follow_names hfollow
      simp only [hl, hget]

/-- **The absolute path of a location is read there.** -/
theorem read?_ofLocation {t : FileTree} {l : Location} (hne : l ≠ [])
    (hl : ∀ n ∈ l, Path.IsName n) (base : Location) :
    t.read? base (.ofLocation l) = t.content? l :=
  read?_of_parts hne (Path.isAbsolute_ofLocation l) (Path.parts_ofLocation hne hl) base

/-- A way is followed part by part. -/
theorem follow_append (t : FileTree) (start : Location) (parts parts' : List Path.Part) :
    t.follow start (parts ++ parts') =
      t.follow start parts >>= fun middle => t.follow middle parts' := by
  induction parts generalizing start with
  | nil => rfl
  | cons part parts ih =>
    simp only [List.cons_append, follow]
    cases t.get? start with
    | none => rfl
    | some node =>
      cases node with
      | file content => rfl
      | directory es =>
        cases part with
        | here | up | name => exact ih _

theorem follow_append_of_ok {t : FileTree} {start middle : Location} {parts : List Path.Part}
    (h : t.follow start parts = .ok middle) (parts' : List Path.Part) :
    t.follow start (parts ++ parts') = t.follow middle parts' := by
  rw [follow_append, h]
  rfl

/-- A way that is followed to its end is followed to the middle first. -/
theorem exists_middle_of_follow {t : FileTree} {start l : Location} {parts parts' : List Path.Part}
    (h : t.follow start (parts ++ parts') = .ok l) :
    ∃ middle, t.follow start parts = .ok middle ∧ t.follow middle parts' = .ok l := by
  rw [follow_append] at h
  cases hmiddle : t.follow start parts with
  | error e =>
    rw [hmiddle] at h
    cases h
  | ok middle =>
    rw [hmiddle] at h
    exact ⟨middle, rfl, h⟩

/-- The end of a way, if it is no directory, is an entry of one. -/
theorem exists_parent_of_follow {t : FileTree} {start l : Location} {part : Path.Part}
    {rest : List Path.Part} (h : t.follow start (part :: rest) = .ok l)
    (hl : t.isDirectoryAt l = false) :
    ∃ above n, l = above ++ [n] ∧ t.isDirectoryAt above = true := by
  induction rest generalizing part start with
  | nil =>
    have hstart := isDirectoryAt_of_follow h
    rw [follow_cons hstart] at h
    cases part with
    | here =>
      cases h
      rw [hstart] at hl
      cases hl
    | up =>
      cases h
      rcases List.eq_nil_or_concat start with rfl | ⟨above, n, rfl⟩
      · rw [List.dropLast_nil, hstart] at hl
        cases hl
      · rw [List.concat_eq_append] at hstart hl
        rw [List.dropLast_concat, isDirectoryAt_of_append hstart] at hl
        cases hl
    | name n =>
      cases h
      exact ⟨start, n, rfl, hstart⟩
  | cons next rest ih =>
    rw [follow_cons (isDirectoryAt_of_follow h)] at h
    cases part with
    | here | up | name => exact ih h

/-! ## Changes -/

/-- Nothing is below a place that is no directory. -/
theorem get?_below {t : FileTree} {l : Location} (hl : t.isDirectoryAt l = false) (n : String)
    (ns : Location) : t.get? (l ++ n :: ns) = none := by
  cases hget : t.get? (l ++ n :: ns) with
  | none => rfl
  | some node =>
    rw [isDirectoryAt_of_get? hget] at hl
    cases hl

/-- **Something without entries changes no other file, where no directory was before.** -/
theorem content?_put_of_ne {t node : FileTree} {above m : Location} {n : String}
    (habove : t.isDirectoryAt above = true) (hl : t.isDirectoryAt (above ++ [n]) = false)
    (hnode : node.entries = []) (hm : m ≠ above ++ [n]) :
    (t.put (above ++ [n]) node).content? m = t.content? m := by
  induction above generalizing t m with
  | nil =>
    cases m with
    | nil => exact (content?_of_isDirectoryAt habove).symm
    | cons k ks =>
      by_cases hk : k = n
      · subst hk
        -- What is below the new entry is gone, but there was nothing.
        cases ks with
        | nil => exact absurd rfl hm
        | cons j js =>
          have hold : t.get? (k :: j :: js) = none := get?_below hl j js
          rw [content?, content?, hold]
          simp [put, get?, Entries.lookup_insert, hnode]
      · simp [content?, put, get?, Entries.lookup_insert, hk]
  | cons a as ih =>
    have hroot : t.isDirectoryAt [] = true :=
      isDirectoryAt_of_append (show t.isDirectoryAt ([] ++ (a :: as)) = true from habove)
    cases m with
    | nil => exact (content?_of_isDirectoryAt hroot).symm
    | cons k ks =>
      by_cases hk : k = a
      · subst hk
        simp only [isDirectoryAt, get?, List.cons_append] at habove hl
        cases hget : t.entries.lookup k with
        | none => simp [hget] at habove
        | some t' =>
          simp only [hget] at habove hl
          have hm' : ks ≠ as ++ [n] := fun heq => hm (by rw [heq]; rfl)
          have hbelow := ih habove hl hm'
          simpa [content?, put, get?, Entries.lookup_insert, hget] using hbelow
      · simp [content?, put, get?, Entries.lookup_insert, hk]

/-- All files are as they were, and all directories are still there. -/
structure Extends (t t' : FileTree) : Prop where
  content?_eq : ∀ l, t'.content? l = t.content? l
  isDirectoryAt : ∀ l, t.isDirectoryAt l = true → t'.isDirectoryAt l = true

theorem Extends.refl (t : FileTree) : t.Extends t := ⟨fun _ => rfl, fun _ h => h⟩

theorem Extends.trans {t t' t'' : FileTree} (h : t.Extends t') (h' : t'.Extends t'') :
    t.Extends t'' where
  content?_eq l := (h'.content?_eq l).trans (h.content?_eq l)
  isDirectoryAt l hl := h'.isDirectoryAt l (h.isDirectoryAt l hl)

/-- A directory is made where nothing was. -/
theorem extends_ensureDirectory {t t' : FileTree} {start : Location} {part : Path.Part}
    {rest : List Path.Part} (h : t.ensureDirectory start (part :: rest) = .ok t') :
    t.Extends t' := by
  rw [ensureDirectory] at h
  cases hfollow : t.follow start (part :: rest) with
  | error e =>
    rw [hfollow] at h
    cases h
  | ok l =>
    rw [hfollow] at h
    simp only [bind, Except.bind] at h
    split at h
    next hnone =>
      cases h
      have hl : t.isDirectoryAt l = false := by rw [FileTree.isDirectoryAt, hnone]
      refine ⟨fun m => ?_, fun m hm => isDirectoryAt_put _ hl hm⟩
      obtain ⟨above, n, rfl, habove⟩ := exists_parent_of_follow hfollow hl
      by_cases hm : m = above ++ [n]
      · rw [hm, content?, content?, get?_put_self, hnone]
        rfl
      · exact content?_put_of_ne habove hl rfl hm
    next =>
      cases h
      exact .refl t
    next => cases h

/-- What one more step does. -/
theorem Attempt.extends_next {t : FileTree} {a : Attempt} {step : FileTree → Except FileError FileTree}
    (ha : t.Extends a.tree) (hstep : ∀ t', step a.tree = .ok t' → a.tree.Extends t') :
    t.Extends (a.next step).tree := by
  rw [next]
  split
  next =>
    cases h : step a.tree with
    | error e => exact ha
    | ok t' => exact ha.trans (hstep t' h)
  next => exact ha

/-- **Making directories changes no file, even if it has to stop half-way.** -/
theorem extends_makeDirectories (t : FileTree) (start : Location) (trail : List Path.Part) :
    t.Extends (t.makeDirectories start trail).tree := by
  have hensure (t t' : FileTree) (part : Path.Part) (trail : List Path.Part)
      (h : t.ensureDirectory start (part :: trail).reverse = .ok t') : t.Extends t' := by
    obtain ⟨first, rest, hparts⟩ := List.exists_cons_of_ne_nil
      (List.reverse_ne_nil_iff.2 (List.cons_ne_nil part trail))
    exact extends_ensureDirectory (hparts ▸ h)
  induction trail with
  | nil => exact .refl t
  | cons part trail ih =>
    rw [makeDirectories]
    split
    next => exact Attempt.extends_next ih fun t' h => hensure _ t' part trail h
    next =>
      cases h : t.ensureDirectory start (part :: trail).reverse with
      | error e => exact .refl t
      | ok t' => exact hensure t t' part trail h

end FileTree

end Abacus
