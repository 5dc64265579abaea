import Abacus.Proofs.Payloads
import Abacus.Program

/-!
# Both forms of an answer agree

A command tells how it ended in five places: the exit status and, in the envelope, the status, the
code, the exit code and the number of items. They are computed on separate paths, for successes,
for rejected commands, for scripts that stop and for settings that cannot be loaded. On each of
them they agree (`Envelope.Agrees`, `Envelope.Counts`), and the printed envelope is decoded as one
that still does (`Command.perform_json`).

The log is no part of what a command prints.
-/

namespace Abacus

open Json (Value)

/-! ## What agreement means -/

namespace Command

/-- The items that the data of an answer to the command holds. -/
def items? (c : Command) (data : Value) : Option (List Value) :=
  match c with
  | .sum .. | .product .. => (data.field? "numbers").bind Value.items?
  | .run .. => (data.field? "steps").bind Value.items?
  | .outline => data.items?
  | _ => none

/-- The items are found again when the data has been read. -/
theorem items?_reread {c : Command} {data : Value} {items : List Value} (hkeys : data.KeysNodup)
    (h : c.items? data = some items) :
    c.items? data.reread = some (items.map Value.reread) := by
  have hfield : ∀ name, (data.field? name).bind Value.items? = some items →
      (data.reread.field? name).bind Value.items? = some (items.map Value.reread) := by
    intro name hname
    obtain ⟨v, hv, hitems⟩ := Option.bind_eq_some_iff.1 hname
    rw [Value.field?_reread hkeys, hv, Option.map_some, Option.bind_some, Value.items?_reread,
      hitems]
    rfl
  cases c with
  | sum | product | run => exact hfield _ h
  | outline =>
    have hitems : data.items? = some items := h
    rw [items?, Value.items?_reread, hitems]
    rfl
  | _ => cases h

end Command

namespace Envelope

/-- Status, code and exit code go with an exit status of the process. -/
structure Agrees (e : Envelope) (status : ExitStatus) : Prop where
  exitCode_eq : e.exitCode = status.code
  ofResult_code : e.exitCode = (ExitStatus.ofResult e.code).code
  success_iff_exitCode : e.status = .success ↔ e.exitCode = 0
  success_iff_code : e.status = .success ↔ e.code = .ok

/-- If the envelope has a count, it is the number of items in its data. -/
def Counts (e : Envelope) (c : Command) : Prop :=
  ∀ n, e.info.count = some n →
    ∃ items, e.data.bind c.items? = some items ∧ n = items.length.toUInt64

/-- The text is one printed envelope and a line end, and the envelope is decoded as `e`. -/
def ReadFrom (e : Envelope) (text : String) : Prop :=
  ∃ printed : Envelope, text = printed.render ++ "\n" ∧ Json.decode read printed.render = .ok e

/-- What is written for a command that ends with the exit status can be read again, and what is
read agrees. -/
structure Answers (e : Envelope) (c : Command) (status : ExitStatus) : Prop where
  payload : ∀ v, e.data = some v → Payload v
  agrees : e.Agrees status
  counts : { e with data := e.data.map Value.reread }.Counts c

/-! ## Envelopes -/

theorem Agrees.of_success {e : Envelope} (hstatus : e.status = .success) (hcode : e.code = .ok)
    (hexit : e.exitCode = 0) : e.Agrees .success where
  exitCode_eq := hexit
  ofResult_code := by
    rw [hcode]
    exact hexit
  success_iff_exitCode := by simp only [hstatus, hexit]
  success_iff_code := by simp only [hstatus, hcode]

theorem Agrees.of_error {e : Envelope} {code : ResultCode} (hne : code ≠ .ok)
    (hstatus : e.status = .error) (hcode : e.code = code)
    (hexit : e.exitCode = (ExitStatus.ofResult code).code) : e.Agrees (.ofResult code) := by
  have hnonzero : (ExitStatus.ofResult code).code ≠ 0 := by
    cases code with
    | ok => exact absurd rfl hne
    | _ => decide
  refine ⟨hexit, ?_, ?_, ?_⟩
  · rw [hcode]
    exact hexit
  · rw [hstatus, hexit]
    exact ⟨nofun, fun hzero => absurd hzero hnonzero⟩
  · rw [hstatus, hcode]
    exact ⟨nofun, fun hok => absurd hok hne⟩

theorem counts_of_none {e : Envelope} {c : Command} (h : e.info.count = none) : e.Counts c := by
  intro n hn
  rw [h] at hn
  cases hn

/-- An envelope that counts the items of its data still does when it has been read. -/
theorem counts_reread {e : Envelope} {c : Command} {data : Value} {items : List Value}
    (hdata : e.data = some data) (hkeys : data.KeysNodup) (hitems : c.items? data = some items)
    (hcount : e.info.count = some items.length.toUInt64) :
    { e with data := e.data.map Value.reread }.Counts c := by
  intro n hn
  have hn : e.info.count = some n := hn
  rw [hcount] at hn
  cases hn
  refine ⟨items.map Value.reread, ?_, by rw [List.length_map]⟩
  rw [hdata]
  exact Command.items?_reread hkeys hitems

/-- What was read of an answer agrees, and it was read in full. -/
theorem Answers.exists_readFrom {e : Envelope} {c : Command} {status : ExitStatus}
    (h : e.Answers c status) :
    ∃ e' : Envelope, e'.ReadFrom (e.render ++ "\n") ∧ e'.Agrees status ∧ e'.Counts c ∧
      e'.code = e.code := by
  refine ⟨_, ⟨e, rfl, decode_render h.payload⟩, ?_, h.counts, rfl⟩
  exact ⟨h.agrees.exitCode_eq, h.agrees.ofResult_code, h.agrees.success_iff_exitCode,
    h.agrees.success_iff_code⟩

/-- A rejection agrees with its exit status. -/
theorem answers_error {code : ResultCode} (h : code ≠ .ok) (message : String) (c : Command) :
    (error code message).Answers c (.ofResult code) where
  payload := nofun
  agrees := Agrees.of_error h rfl rfl rfl
  counts := counts_of_none rfl

end Envelope

/-! ## Answers of the commands -/

/-- The answer has an envelope, which agrees with the exit status. -/
def Answer.Agrees (a : Answer) (c : Command) : Prop :=
  ∃ e, a.envelope = some e ∧ e.Answers c a.status

/-- What is printed of an answer that agrees. -/
theorem Answer.Agrees.printed {a : Answer} {c : Command} (h : a.Agrees c) :
    a.stderr true = "" ∧
      ∃ e : Envelope, e.ReadFrom (a.stdout true) ∧ e.Agrees a.status ∧ e.Counts c := by
  obtain ⟨e, henvelope, hanswers⟩ := h
  obtain ⟨e', hread, hagrees, hcounts, -⟩ := hanswers.exists_readFrom
  constructor
  · simp only [stderr, henvelope]
  · refine ⟨e', ?_, hagrees, hcounts⟩
    simp only [stdout, henvelope]
    exact hread

theorem Answer.agrees_rejected {code : ResultCode} (h : code ≠ .ok) (message : String)
    (c : Command) : (rejected code message).Agrees c :=
  ⟨_, rfl, Envelope.answers_error h message c⟩

/-- A success without a count agrees if its data can be given back. -/
theorem Answer.agrees_success {lines : List String} {e : Envelope} (hstatus : e.status = .success)
    (hcode : e.code = .ok) (hexit : e.exitCode = 0) (hcount : e.info.count = none)
    (hdata : ∀ v, e.data = some v → Payload v) (c : Command) : (success lines e).Agrees c :=
  ⟨e, rfl, hdata, Envelope.Agrees.of_success hstatus hcode hexit, Envelope.counts_of_none hcount⟩

/-- A success with a count agrees if that is the number of its items. -/
theorem Answer.agrees_counted {lines : List String} {data : Value} {items : List Value}
    {c : Command} (t : EntityType) (hpayload : Payload data) (hkeys : data.KeysNodup)
    (hitems : c.items? data = some items) :
    (success lines (((Envelope.success data).withEntityType t).withCount
      items.length.toUInt64)).Agrees c := by
  refine ⟨_, rfl, ?_, Envelope.Agrees.of_success rfl rfl rfl, ?_⟩
  · rintro _ ⟨⟩
    exact hpayload
  · exact Envelope.counts_reread rfl hkeys hitems rfl

theorem Aggregate.agrees_answer {c : Command} {numbers : List Int64} {initial value : Int64}
    (hc : ∀ data, c.items? data = (data.field? "numbers").bind Value.items?) :
    (answer numbers initial value).Agrees c := by
  have hcount : numbers.length = (numbers.map Value.int64).length := by rw [List.length_map]
  have hkeys : (resultJson numbers initial value).KeysNodup := by
    rw [resultJson, Value.KeysNodup]
    simp
  rw [answer, hcount]
  exact Answer.agrees_counted .aggregate (payload_resultJson numbers initial value) hkeys (hc _)

theorem Report.keysNodup_toJson (r : Report) : r.toJson.KeysNodup := by
  rw [toJson, Value.KeysNodup]
  simp

theorem Report.count_eq (r : Report) : r.count = (r.steps.map Step.toJson).length.toUInt64 := by
  rw [count, List.length_map]

theorem Report.agrees_answer {r : Report} (h : Payload r.toJson) (variant : Variant)
    (initial : Option Int64) (operations : List String) :
    r.answer.Agrees (.run variant initial operations) := by
  rw [answer, count_eq]
  exact Answer.agrees_counted .script h r.keysNodup_toJson rfl

/-- A script that stops counts the steps that it completed. -/
theorem Failure.agrees_answer {f : Failure} (h : Payload f.completed.toJson) (variant : Variant)
    (initial : Option Int64) (operations : List String) :
    f.answer.Agrees (.run variant initial operations) := by
  have hcode : ResultCode.ofCalcError f.source ≠ .ok := by
    cases f.source <;> nofun
  refine ⟨_, rfl, ?_, Envelope.Agrees.of_error hcode rfl rfl rfl, ?_⟩
  · rintro _ ⟨⟩
    exact h
  · exact Envelope.counts_reread rfl f.completed.keysNodup_toJson rfl
      (congrArg some f.completed.count_eq)

theorem Script.agrees_answer (variant : Variant) (initial : Option Int64) (seed : Int64)
    (policy : SqrtPolicy) (texts : List String) :
    (answer variant seed policy texts).Agrees (.run variant initial texts) := by
  unfold answer
  split
  next => exact Answer.agrees_rejected (by decide) _ _
  next script _ =>
    split
    next report hreport => exact Report.agrees_answer (payload_of_ok hreport) variant initial texts
    next failure hfailure =>
      exact Failure.agrees_answer (payload_of_error hfailure) variant initial texts

theorem SelfCheck.agrees_answer (check : SelfCheck) : check.answer.Agrees .selfCheck := by
  unfold answer
  split
  next =>
    refine Answer.agrees_success rfl rfl rfl rfl ?_ _
    rintro _ ⟨⟩
    exact check.payload_toJson
  next => exact Answer.agrees_rejected (by decide) _ _

theorem DemoReport.agrees_answer (r : DemoReport) : r.answer.Agrees .demo := by
  refine Answer.agrees_success rfl rfl rfl rfl ?_ _
  rintro _ ⟨⟩
  exact r.payload_toJson

theorem Outline.agrees_answer : answer.Agrees .outline := by
  have hcount : symbols.length = (symbols.map OutlineSymbol.toJson).length := by
    rw [List.length_map]
  rw [answer, hcount]
  exact Answer.agrees_counted .outline payload_symbols trivial rfl

theorem Settings.agrees_initAnswer (p : Path) (force : Bool) :
    (initAnswer p).Agrees (.init force) := by
  refine Answer.agrees_success rfl rfl rfl rfl ?_ _
  rintro _ ⟨⟩
  exact payload_str p.text

/-- A run without settings ends before its command. -/
theorem Program.run_unsettled {w : Workspace} {args : List String} {line : CommandLine}
    {message : String} (hline : CommandLine.parse args = .ok line)
    (hsettings : settings w line.config = .error message) :
    run w args = .ok (unsettled w line.json message) := by
  rw [run, hline]
  simp only [bind, Except.bind, hsettings]
  rfl

namespace Command

/-- Every command but the one that shows the settings has an answer that agrees. -/
theorem agrees_of_execute {c : Command} {s : Settings} {tree tree' : FileTree} {here : Location}
    {a : Answer} (hc : c ≠ .config) (h : c.execute s tree here = .ok (a, tree')) : a.Agrees c := by
  cases c with
  | demo =>
    cases h
    exact Demo.report.agrees_answer
  | selfCheck =>
    cases h
    exact SelfCheck.run.agrees_answer
  | sum numbers initial =>
    cases h
    exact Aggregate.agrees_answer fun _ => rfl
  | product numbers initial =>
    cases h
    exact Aggregate.agrees_answer fun _ => rfl
  | run variant initial operations =>
    cases h
    exact Script.agrees_answer variant initial _ _ operations
  | outline =>
    cases h
    exact Outline.agrees_answer
  | init force =>
    rw [execute] at h
    split at h
    next p _ _ =>
      cases h
      exact Settings.agrees_initAnswer p force
    next p _ =>
      cases h
      exact Answer.agrees_rejected (by decide) _ _
    next => cases h
  | config => exact absurd rfl hc

theorem perform_of_execute {c : Command} {s : Settings} {tree tree' : FileTree} {here : Location}
    {a : Answer} (h : c.execute s tree here = .ok (a, tree')) (json : Bool) :
    c.perform s json tree here = ⟨.ok a.status, a.stdout json, a.stderr json, tree'⟩ := by
  rw [perform, h]

/-- A command that ends with an exit status has an answer. -/
theorem exists_execute {c : Command} {s : Settings} {json : Bool} {tree : FileTree}
    {here : Location} {status : ExitStatus} (h : (c.perform s json tree here).ending = .ok status) :
    ∃ a tree', c.execute s tree here = .ok (a, tree') ∧ a.status = status := by
  cases hexecute : c.execute s tree here with
  | error e =>
    rw [perform, hexecute] at h
    cases h
  | ok result =>
    obtain ⟨a, tree'⟩ := result
    rw [perform_of_execute hexecute] at h
    cases h
    exact ⟨a, tree', rfl, rfl⟩

/-- What a command prints as JSON tells how it ended, and the text form ends alike.

Settings that cannot be loaded end a run before any command; they are told in the same form. -/
theorem perform_json :
    (∀ (c : Command) (s : Settings) (tree : FileTree) (here : Location) (status : ExitStatus),
      c ≠ .config → (c.perform s true tree here).ending = .ok status →
        (c.perform s true tree here).stderr = "" ∧
        (∃ e : Envelope, e.ReadFrom (c.perform s true tree here).stdout ∧ e.Agrees status ∧
          e.Counts c) ∧
        (c.perform s false tree here).ending = .ok status ∧
        (c.perform s false tree here).tree = (c.perform s true tree here).tree) ∧
    ∀ (w : Workspace) (args : List String) (line : CommandLine) (message : String),
      CommandLine.parse args = .ok line → Program.settings w line.config = .error message →
        ∃ finish, Program.run w args = .ok finish ∧ finish.exitCode = 2 ∧
          (line.json = true → ∃ e : Envelope, e.ReadFrom finish.stdout ∧ e.Agrees .usage ∧
            e.Counts line.command ∧ e.code = .configError ∧ e.exitCode = 2) := by
  constructor
  · intro c s tree here status hc hending
    obtain ⟨a, tree', hexecute, rfl⟩ := exists_execute hending
    obtain ⟨hstderr, hread⟩ := (agrees_of_execute hc hexecute).printed
    rw [perform_of_execute hexecute, perform_of_execute hexecute]
    exact ⟨hstderr, hread, rfl, rfl⟩
  · intro w args line message hline hsettings
    have hanswers := @Envelope.answers_error .configError (by decide) message line.command
    obtain ⟨e, hread, hagrees, hcounts, hcode⟩ := hanswers.exists_readFrom
    refine ⟨_, Program.run_unsettled hline hsettings, rfl, ?_⟩
    intro hjson
    refine ⟨e, ?_, hagrees, hcounts, hcode, hagrees.exitCode_eq⟩
    rw [Program.unsettled, hjson]
    exact hread

/-- A script that stops at its second operation, and a settings file that is not there. -/
theorem perform_json_failures :
    ((Command.run .scientific (some (-9)) ["add:5", "sqrt"]).perform {} true (.directory [])
        []).ending = .ok .failure ∧
      (∃ e : Envelope,
        e.ReadFrom ((Command.run .scientific (some (-9)) ["add:5", "sqrt"]).perform {} true
          (.directory []) []).stdout ∧ e.Agrees .failure) ∧
      ∃ finish, Program.run ⟨.directory [], [], []⟩ ["--json", "--config", "none.toml", "demo"] =
          .ok finish ∧ finish.exitCode = 2 ∧
        ∃ e : Envelope, e.ReadFrom finish.stdout ∧ e.code = .configError := by
  have hending : ((Command.run .scientific (some (-9)) ["add:5", "sqrt"]).perform {} true
      (.directory []) []).ending = .ok .failure := by
    rfl
  have hline : CommandLine.parse ["--json", "--config", "none.toml", "demo"] =
      .ok ⟨some "none.toml", true, .demo⟩ := by
    rfl
  have hsettings : Program.settings ⟨.directory [], [], []⟩ (some "none.toml") =
      .error "Configuration file not found: none.toml" := by
    rfl
  obtain ⟨-, ⟨e, hread, hagrees, -⟩, -⟩ := perform_json.1
    (.run .scientific (some (-9)) ["add:5", "sqrt"]) _ _ _ _ nofun hending
  obtain ⟨finish, hrun, hexit, hjson⟩ := perform_json.2 _ _ _ _ hline hsettings
  obtain ⟨e', hread', -, -, hcode, -⟩ := hjson rfl
  exact ⟨hending, ⟨e, hread, hagrees⟩, finish, hrun, hexit, e', hread', hcode⟩

end Command

end Abacus
