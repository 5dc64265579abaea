import Abacus.Proofs.CommandLine.Words
import Abacus.Proofs.Text.Blanks

/-!
# Command lines that are read back

While arguments are read, some of what was said is pending and has not been checked. A progress
*stands for* what it comes to when that is checked (`Progress.Stands`). Reading a word adds what the
word says to what the progress stands for (`Progress.Stands.takes_word`), and so does reading a list
of words (`Progress.Stands.takes_words`). Where the words stand in the list does not matter, so the
options of the program can be put among those of the command (`parse_words`).
-/

namespace Abacus.CommandLine

/-! ## Progress -/

namespace Progress

variable {p p' p'' : Progress} {level : Level} {g g' : Given} {o : ValueOption} {arg value : String}
  {args args' : List String} {w : Word} {ws : List Word}

theorem numberChars_of_isDigit {cs : List Char} (h : ∀ c ∈ cs, c.isDigit = true)
    (first point mark : Bool) : numberChars first point mark cs = true := by
  induction cs generalizing first with
  | nil => rfl
  | cons c cs ih =>
    obtain ⟨hc, hcs⟩ := List.forall_mem_cons.1 h
    rw [numberChars, Text.digit?_of_isDigit hc]
    exact ih hcs false

/-- The argument cannot be taken for an option. -/
def Plain (p : Progress) (level : Level) (arg : String) : Prop :=
  arg.toList.head? ≠ some '-' ∨ (p.admitsNegative level = true ∧ IsNegative arg)

theorem take_of_plain (hp : p.trailing = false) (h : p.Plain level arg) :
    p.take level arg = p.takeWord level arg := by
  rw [take, hp, if_neg Bool.false_ne_true]
  rcases h with hhead | ⟨hadmits, d, ds, htext, hdigits⟩
  · split
    next htext => exact absurd (by rw [htext]; rfl) hhead
    next htext => exact absurd (by rw [htext]; rfl) hhead
    next htext => exact absurd (by rw [htext]; rfl) hhead
    next => rfl
  · have hd : d ≠ '-' := fun hd => absurd (hdigits d List.mem_cons_self) (by rw [hd]; decide)
    rw [htext]
    simp [hd, hadmits, numberChars_of_isDigit hdigits]

theorem take_long (hp : p.trailing = false) {cs : List Char} (hcs : cs ≠ [])
    (harg : arg.toList = '-' :: '-' :: cs) : p.take level arg = p.takeLong level cs := by
  obtain ⟨c, cs, rfl⟩ := List.exists_cons_of_ne_nil hcs
  rw [take, hp, if_neg Bool.false_ne_true, harg]
  rfl

theorem take_letter (hp : p.trailing = false) {c : Char} (hc : c ≠ '-')
    (hnumber : numberChars true false false [c] = false)
    (harg : arg.toList = ['-', c]) : p.take level arg = p.takeLetters level [c] := by
  rw [take, hp, if_neg Bool.false_ne_true, harg]
  simp [hc, hnumber]

/-! ### What a progress stands for -/

/-- The options have not ended, and all in all `g` is given once what is pending is checked. -/
structure Stands (p : Progress) (level : Level) (g : Given) : Prop where
  trailing_eq : p.trailing = false
  settle_eq : p.settle level = .ok { given := g }

theorem stands_given (level : Level) (g : Given) : Stands { given := g } level g := ⟨rfl, rfl⟩

theorem settle_option (g : Given) (o : ValueOption) (value : String) :
    settle { given := g, pending := some (.option o value) } level =
      (g.accept o value).map fun g => { given := g } := rfl

theorem settle_values (g : Given) (texts : List String) :
    settle { given := g, pending := some (.values texts) } level =
      (g.acceptValues level texts).map fun g => { given := g } := rfl

theorem stands_option (h : g.accept o value = .ok g') :
    Stands { given := g, pending := some (.option o value) } level g' :=
  ⟨rfl, by rw [settle_option, h]; rfl⟩

theorem stands_values {texts : List String} (h : g.acceptValues level texts = .ok g') :
    Stands { given := g, pending := some (.values texts) } level g' :=
  ⟨rfl, by rw [settle_values, h]; rfl⟩

theorem Stands.isAwaiting_eq (h : p.Stands level g) : p.isAwaiting = false := by
  obtain ⟨given, pending, trailing⟩ := p
  rcases pending with - | o | ⟨o, value⟩ | texts
  · rfl
  · cases h.settle_eq
  · rfl
  · rfl

/-! ### Options -/

theorem Stands.take_name (h : p.Stands level g) (ho : level.has o = true) :
    p.take level ("--" ++ o.name) = .ok { given := g, pending := some (.awaiting o) } := by
  have htext : ("--" ++ o.name).toList = '-' :: '-' :: o.name.toList := by cases o <;> rfl
  have hname : o.name.toList ≠ [] := by cases o <;> decide
  have hcut : Text.cut '=' o.name.toList = none := by cases o <;> rfl
  rw [take_long h.trailing_eq hname htext, takeLong, hcut]
  simp only [String.ofList_toList, (lookup_options ho).1, takeOption, h.settle_eq]
  rfl

theorem Stands.take_letter (h : p.Stands level g) (ho : level.has o = true) :
    p.take level (String.ofList ['-', o.letter]) =
      .ok { given := g, pending := some (.awaiting o) } := by
  have hhyphen : o.letter ≠ '-' := by cases o <;> decide
  have hnumber : numberChars true false false [o.letter] = false := by cases o <;> decide
  rw [Progress.take_letter h.trailing_eq hhyphen hnumber String.toList_ofList, takeLetters,
    (lookup_options ho).2]
  simp only [takeOption, h.settle_eq]
  rfl

theorem Stands.take_joined (h : p.Stands level g) (ho : level.has o = true)
    (hvalue : g.accept o value = .ok g') :
    p.take level ("--" ++ o.name ++ "=" ++ value) = .ok { given := g' } := by
  have htext : ("--" ++ o.name ++ "=" ++ value).toList =
      '-' :: '-' :: (o.name.toList ++ '=' :: value.toList) := by simp
  have hname : '=' ∉ o.name.toList := by cases o <;> decide
  rw [take_long h.trailing_eq (by simp) htext, takeLong, Text.cut_eq_some_iff.2 ⟨rfl, hname⟩]
  simp only [String.ofList_toList, (lookup_options ho).1, takeOption, h.settle_eq]
  change (g.accept o value >>= fun g => pure ({ given := g } : Progress)) = _
  rw [hvalue]
  rfl

theorem Stands.take_json (h : p.Stands level g) (hjson : g.json = false) :
    p.take level "--json" = .ok { given := { g with json := true } } := by
  have htext : "--json".toList = '-' :: '-' :: "json".toList := rfl
  have hcut : Text.cut '=' "json".toList = none := rfl
  have haccept : g.acceptSwitch .json = .ok { g with json := true } := by
    simp [Given.acceptSwitch, hjson]
  rw [take_long h.trailing_eq (by decide) htext, takeLong, hcut]
  simp only [String.ofList_toList, lookup_json, takeSwitch, h.settle_eq]
  change (g.acceptSwitch .json >>= fun g => pure ({ given := g } : Progress)) = _
  rw [haccept]
  rfl

/-! ### Values -/

/-- The value of an option that waits for it. -/
theorem take_awaited
    (hvalue : Plain { given := g, pending := some (.awaiting o) } level value) :
    take { given := g, pending := some (.awaiting o) } level value =
      .ok { given := g, pending := some (.option o value) } := by
  rw [take_of_plain rfl hvalue]
  rfl

theorem Stands.takeWord_eq (h : p.Stands level g) (arg : String) :
    p.takeWord level arg = p.takeValue level arg := by
  have hawaiting := h.isAwaiting_eq
  rw [takeWord]
  split
  next hpending _ =>
    rw [isAwaiting, hpending] at hawaiting
    cases hawaiting
  next => rfl

/-- A value of the command is accepted behind those that are pending. -/
theorem Stands.take_value (h : p.Stands level g) (hlevel : level.takesValues = true)
    (hplain : p.Plain level value) (hvalue : g.acceptValues level [value] = .ok g') :
    ∃ p', p.take level value = .ok p' ∧ p'.Stands level g' := by
  rw [take_of_plain h.trailing_eq hplain, h.takeWord_eq, takeValue.eq_def, if_pos hlevel]
  split
  next texts htexts =>
    obtain ⟨given, pending, trailing⟩ := p
    obtain rfl : trailing = false := h.trailing_eq
    obtain rfl : pending = some (.values texts) := htexts
    -- The pending values would be accepted, and one more is.
    have hsettle := h.settle_eq
    rw [settle_values] at hsettle
    obtain ⟨g₀, hg₀, heq⟩ := Text.map_eq_ok hsettle
    cases heq
    exact ⟨_, rfl, stands_values (Given.acceptValues_append hg₀ hvalue)⟩
  next =>
    rw [h.settle_eq]
    exact ⟨_, rfl, stands_values hvalue⟩

/-! ### Lists of arguments -/

/-- The arguments are taken in turn. Those in front of the name of a command are no names
themselves: each of them is a value that an option waits for, or starts with a hyphen. -/
inductive Takes (level : Level) : Progress → List String → Progress → Prop
  | nil {p : Progress} : Takes level p [] p
  | cons {p p' p'' : Progress} {arg : String} {args : List String}
      (take : p.take level arg = .ok p')
      (no_name : level = .program → p.isAwaiting = true ∨ arg.toList.head? = some '-')
      (rest : Takes level p' args p'') : Takes level p (arg :: args) p''

theorem Takes.append (h : Takes level p args p') (h' : Takes level p' args' p'') :
    Takes level p (args ++ args') p'' := by
  induction h with
  | nil => exact h'
  | cons take no_name _ ih => exact .cons take no_name (ih h')

theorem Takes.foldlM_eq {name : CommandName} (h : Takes (.command name) p args p') :
    args.foldlM (fun p arg => take p (.command name) arg) p = .ok p' := by
  induction h with
  | nil => rfl
  | cons take _ _ ih =>
    rw [List.foldlM_cons, take]
    exact ih

theorem ofText?_of_hyphen {arg : String} (h : arg.toList.head? = some '-') :
    CommandName.ofText? arg = none := by
  refine List.find?_eq_none.2 fun name _ hname => ?_
  obtain rfl : name.text = arg := of_decide_eq_true hname
  revert h
  cases name <;> decide

theorem parseProgram_cons (p : Progress) (rest : List String)
    (h : p.isAwaiting = true ∨ arg.toList.head? = some '-') :
    parseProgram p (arg :: rest) = p.take .program arg >>= fun p => parseProgram p rest := by
  rw [parseProgram]
  rcases h with hawaiting | hhead
  · simp [hawaiting]
  · have hhelp : arg ≠ "help" := by
      rintro rfl
      cases hhead
    simp [ofText?_of_hyphen hhead, hhelp]

theorem Takes.parseProgram_eq (h : Takes .program p args p') (rest : List String) :
    parseProgram p (args ++ rest) = parseProgram p' rest := by
  induction h with
  | nil => rfl
  | cons take no_name _ ih =>
    rw [List.cons_append, parseProgram_cons _ _ (no_name rfl), take]
    exact ih

/-! ### Words -/

/-- An option and its value. -/
theorem Stands.takes_option (h : p.Stands level g) (ho : level.has o = true)
    (hplain : Plain { given := g, pending := some (.awaiting o) } level value)
    (hvalue : g.accept o value = .ok g') (s : Spelling) :
    ∃ p', p.Takes level (s.args o value) p' ∧ p'.Stands level g' := by
  have htake := take_awaited hplain
  cases s with
  | apart =>
    refine ⟨_, .cons (h.take_name ho) (fun _ => .inr ?_) (.cons htake (fun _ => .inl rfl) .nil),
      stands_option hvalue⟩
    cases o <;> rfl
  | joined =>
    refine ⟨_, .cons (h.take_joined ho hvalue) (fun _ => .inr ?_) .nil, stands_given level g'⟩
    simp
  | letter =>
    refine ⟨_, .cons (h.take_letter ho) (fun _ => .inr ?_) (.cons htake (fun _ => .inl rfl) .nil),
      stands_option hvalue⟩
    rw [String.toList_ofList]
    rfl

/-- What a word says is added to what the progress stands for. -/
theorem Stands.takes_word (h : p.Stands level g) (hlevel : level.allows w = true)
    (hw : g.Lacks w) : ∃ p', p.Takes level w.args p' ∧ p'.Stands level (w.addTo g) := by
  cases w with
  | json =>
    exact ⟨_, .cons (h.take_json hw) (fun _ => .inr rfl) .nil, stands_given level _⟩
  | config s path =>
    exact h.takes_option (o := .config) hlevel (.inl path.head_ne) (Given.accept_config hw path) s
  | initial s n =>
    refine h.takes_option (o := .initial) hlevel ?_ (Given.accept_initial hw n) s
    exact (plain_or_negative n).imp_right fun hn => ⟨by simp [admitsNegative], hn⟩
  | variant s v =>
    have hplain : v.name.toList.head? ≠ some '-' := by cases v <;> decide
    exact h.takes_option (o := .variant) hlevel (.inl hplain) (Given.accept_variant hw v) s
  | number n =>
    have hnumbers : level.takesNumbers = true := hlevel
    have hplain : p.Plain level (Text.renderInt64 n) :=
      (plain_or_negative n).imp_right fun hn => ⟨by simp [admitsNegative, hnumbers], hn⟩
    obtain ⟨p', htake, hp'⟩ := h.take_value (by simp [Level.takesValues, hnumbers]) hplain
      (Given.acceptValues_number hnumbers n)
    exact ⟨p', .cons htake (by rintro rfl; cases hlevel) .nil, hp'⟩
  | operation op =>
    obtain rfl : level = .command .run := of_decide_eq_true hlevel
    obtain ⟨p', htake, hp'⟩ := h.take_value rfl (.inl (head_render op)) rfl
    exact ⟨p', .cons htake nofun .nil, hp'⟩

/-- What words say is added in turn to what the progress stands for. -/
theorem Stands.takes_words (h : p.Stands level g) (hlevel : ∀ w ∈ ws, level.allows w = true)
    (hws : NoneTwice ws) (hlacks : ∀ w ∈ ws, g.Lacks w) :
    ∃ p', p.Takes level (ws.flatMap Word.args) p' ∧ p'.Stands level (g.addAll ws) := by
  induction ws generalizing p g with
  | nil => exact ⟨p, .nil, h⟩
  | cons w ws ih =>
    obtain ⟨hw, hws⟩ := List.pairwise_cons.1 hws
    obtain ⟨hlw, hlws⟩ := List.forall_mem_cons.1 hlevel
    obtain ⟨hgw, hgws⟩ := List.forall_mem_cons.1 hlacks
    obtain ⟨p', htake, hp'⟩ := h.takes_word hlw hgw
    obtain ⟨p'', htakes, hp''⟩ := ih hp' hlws hws fun w' hw' => (hgws w' hw').addTo (hw w' hw')
    exact ⟨p'', htake.append htakes, hp''⟩

end Progress

/-! ## Command lines -/

theorem ofText?_text (name : CommandName) : CommandName.ofText? name.text = some name := by
  cases name <;> decide

/-- The words behind the name of a command say what is given. -/
theorem parseCommand_words {name : CommandName} {ws : List Word} {command : Command}
    (hlevel : ∀ w ∈ ws, (Level.command name).allows w = true) (hws : NoneTwice ws)
    (hcommand : (({} : Given).addAll ws).toCommand name = .ok command) :
    parseCommand name (ws.flatMap Word.args) = .ok (({} : Given).addAll ws, command) := by
  obtain ⟨p, htakes, hp⟩ := (Progress.stands_given (.command name) {}).takes_words hlevel hws
    fun w _ => Given.lacks_empty w
  rw [parseCommand, htakes.foldlM_eq]
  change (p.settle (.command name) >>= fun p => p.given.toCommand name >>= fun command =>
    pure (p.given, command)) = _
  rw [hp.settle_eq]
  change (Given.toCommand _ name >>= fun command => pure (_, command)) = _
  rw [hcommand]
  rfl

/-- What is said in front of the name of a command counts where nothing is said behind it. -/
theorem parseProgram_name {p : Progress} {g own : Given} {name : CommandName} {rest : List String}
    {command : Command} (hp : p.Stands .program g)
    (h : parseCommand name rest = .ok (own, command)) :
    parseProgram p (name.text :: rest) = .ok {
      config := own.config.or g.config
      json := own.json || g.json
      command := command } := by
  rw [parseProgram, hp.trailing_eq, hp.isAwaiting_eq, ofText?_text]
  change (parseCommand name rest >>= fun r => p.settle .program >>= fun p => pure ({
    config := r.1.config.or p.given.config
    json := r.1.json || p.given.json
    command := r.2 } : CommandLine)) = _
  rw [h, hp.settle_eq]
  rfl

/-- Words for every command may stand in front of a command's name and anywhere behind it. The
other words make the command. -/
theorem parse_of_words (name : CommandName) {before behind own : List Word} {command : Command}
    (hbefore : ∀ w ∈ before, w.isGlobal = true) (honce : NoneTwice before)
    (honce' : NoneTwice behind) (hown : behind.filter (!·.isGlobal) = own)
    (hallows : ∀ w ∈ own, (Level.command name).allows w = true)
    (hcommand : (({} : Given).addAll own).toCommand name = .ok command) :
    parse (before.flatMap Word.args ++ name.text :: behind.flatMap Word.args) = .ok {
      config := ((before ++ behind).filterMap Word.path?).getLast?
      json := (before ++ behind).any Word.isJson
      command := command } := by
  have hprogram : ∀ w ∈ before, Level.program.allows w = true :=
    fun w hw => allows_of_isGlobal (hbefore w hw)
  have hbehind : ∀ w ∈ behind, (Level.command name).allows w = true := by
    intro w hw
    by_cases hglobal : w.isGlobal = true
    · exact allows_of_isGlobal hglobal
    · exact hallows w (hown ▸ List.mem_filter.2 ⟨hw, by simp [hglobal]⟩)
  have hgiven : (({} : Given).addAll behind).toCommand name = .ok command := by
    rw [Given.addAll_eq, hown, ← hcommand]
    cases name <;> rfl
  obtain ⟨p, htakes, hp⟩ := (Progress.stands_given .program {}).takes_words hprogram honce
    fun w _ => Given.lacks_empty w
  rw [parse, htakes.parseProgram_eq,
    parseProgram_name hp (parseCommand_words hbehind honce' hgiven),
    Given.addAll_eq _ before, Given.addAll_eq _ behind]
  simp [List.getLast?_append, Bool.or_comm]

/-! ### Runs and aggregates -/

theorem allows_run (sv si : Spelling) (v : Variant) (i : Int64) (ops : List Operation) :
    ∀ w ∈ Word.variant sv v :: .initial si i :: ops.map .operation,
      (Level.command .run).allows w = true := by
  refine List.forall_mem_cons.2 ⟨rfl, List.forall_mem_cons.2 ⟨rfl, ?_⟩⟩
  exact List.forall_mem_map.2 fun _ _ => rfl

theorem toCommand_run (sv si : Spelling) (v : Variant) (i : Int64) {ops : List Operation}
    (hops : ops ≠ []) :
    (({} : Given).addAll (.variant sv v :: .initial si i :: ops.map .operation)).toCommand .run =
      .ok (.run v (some i) (ops.map Operation.render)) := by
  rw [Given.addAll_cons, Given.addAll_cons, Given.addAll_operations]
  simp [Word.addTo, Given.toCommand, hops]

/-- The words of an aggregate command: the number to start from, if any, and the numbers. -/
def aggregateWords (seed : Option (Spelling × Int64)) (ns : List Int64) : List Word :=
  (seed.toList.map fun (s, n) => .initial s n) ++ ns.map .number

theorem allows_aggregateWords {level : Level} (hnumbers : level.takesNumbers = true)
    (hinitial : level.hasInitial = true) (seed : Option (Spelling × Int64)) (ns : List Int64) :
    ∀ w ∈ aggregateWords seed ns, level.allows w = true :=
  List.forall_mem_append.2 ⟨List.forall_mem_map.2 fun _ _ => hinitial,
    List.forall_mem_map.2 fun _ _ => hnumbers⟩

theorem addAll_aggregateWords (seed : Option (Spelling × Int64)) (ns : List Int64) :
    ({} : Given).addAll (aggregateWords seed ns) =
      { initial := seed.map Prod.snd, numbers := ns } := by
  rw [aggregateWords, Given.addAll_append, Given.addAll_numbers]
  cases seed <;> simp [Word.addTo]

/-- Command lines are read back, however the options are spelled. Words for every command may stand
in front of the name and anywhere among the words of the command: they change the path of the
settings and the form of the output, and nothing else. -/
theorem parse_words (before behind : List Word) (hbefore : ∀ w ∈ before, w.isGlobal = true)
    (honce : NoneTwice before) (honce' : NoneTwice behind) :
    let config := ((before ++ behind).filterMap Word.path?).getLast?
    let json := (before ++ behind).any Word.isJson
    (∀ sv v si i ops, ops ≠ [] →
      behind.filter (!·.isGlobal) = .variant sv v :: .initial si i :: ops.map .operation →
      parse (before.flatMap Word.args ++ "run" :: behind.flatMap Word.args) = .ok {
        config, json, command := .run v (some i) (ops.map Operation.render) }) ∧
    (∀ seed ns, behind.filter (!·.isGlobal) = aggregateWords seed ns →
      parse (before.flatMap Word.args ++ "sum" :: behind.flatMap Word.args) = .ok {
        config, json, command := .sum ns (seed.map Prod.snd) } ∧
      parse (before.flatMap Word.args ++ "product" :: behind.flatMap Word.args) = .ok {
        config, json, command := .product ns (seed.map Prod.snd) }) := by
  refine ⟨fun sv v si i ops hops hown => ?_, fun seed ns hown => ⟨?_, ?_⟩⟩
  · exact parse_of_words .run hbefore honce honce' hown (allows_run sv si v i ops)
      (toCommand_run sv si v i hops)
  · refine parse_of_words .sum hbefore honce honce' hown (allows_aggregateWords rfl rfl seed ns) ?_
    rw [addAll_aggregateWords]
    rfl
  · refine parse_of_words .product hbefore honce honce' hown
      (allows_aggregateWords rfl rfl seed ns) ?_
    rw [addAll_aggregateWords]
    rfl

/-- A file of the name of a command, and options between the values. -/
theorem parse_words_scattered :
    parse ["-c", "run", "run", "--variant=scientific", "-i", "-9223372036854775808", "add:-5",
        "--json", "sqrt"] = .ok {
      config := some "run", json := true
      command := .run .scientific (some (-9223372036854775808)) ["add:-5", "sqrt"] } ∧
    parse ["--json", "sum", "--initial=-3", "-1", "--config", "p", "-2"] = .ok {
      config := some "p", json := true, command := .sum [-1, -2] (some (-3)) } ∧
    parse ["--json", "product", "--initial=-3", "-1", "--config", "p", "-2"] = .ok {
      config := some "p", json := true, command := .product [-1, -2] (some (-3)) } := by
  have hrun := (parse_words [.config .letter ⟨"run", by decide, by decide⟩]
    [.variant .joined .scientific, .initial .letter (-9223372036854775808), .operation (.add (-5)),
      .json, .operation .squareRoot] (by decide) (by decide) (by decide)).1
    .joined .scientific .letter (-9223372036854775808) [.add (-5), .squareRoot] (by decide) rfl
  have haggregate := (parse_words [.json]
    [.initial .joined (-3), .number (-1), .config .apart ⟨"p", by decide, by decide⟩, .number (-2)]
    (by decide) (by decide) (by decide)).2 (some (.joined, -3)) [-1, -2] rfl
  exact ⟨hrun, haggregate⟩

end Abacus.CommandLine
