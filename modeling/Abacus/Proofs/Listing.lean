import Abacus.Proofs.Command
import Abacus.Proofs.Runs
import Abacus.Proofs.Text.Fields
import Abacus.Proofs.Text.Quotes
import Mathlib.Data.List.Forall2

/-!
# Listings of runs

In the text form a run is a listing: a line for each step and, if all went well, a line for the last
value. What the envelope of the run holds can be found again on these lines. No text on a line has a
line break in it, so the lines can be told apart (`Answer.splitOn_ended`), and the operation and the
value have no blanks and are divided by some, however long they are (`Step.shownBy_line`).

So both forms tell of the same run (`Command.perform_run_agrees`).
-/

namespace Abacus

open Text (isBlank fields)

/-! ## Lines that can be told apart -/

theorem Answer.splitOn_ended {lines : List String} (h : ∀ line ∈ lines, '\n' ∉ line.toList) :
    (ended lines).toList.splitOn '\n' = lines.map String.toList ++ [[]] := by
  rw [List.splitOn_eq_splitOnP]
  induction lines with
  | nil => rfl
  | cons line lines ih =>
    obtain ⟨hline, hlines⟩ := List.forall_mem_cons.1 h
    have hended : (ended (line :: lines)).toList = line.toList ++ '\n' :: (ended lines).toList := by
      simp [ended]
    have hfirst : line.toList.splitOnP (· == '\n') = [line.toList] :=
      List.splitOnP_eq_singleton fun c hc => beq_false_of_ne fun heq => hline (heq ▸ hc)
    have hsplit := List.splitOnP_append_cons (p := (· == '\n')) line.toList (ended lines).toList
      (beq_self_eq_true '\n')
    rw [hended, hsplit, hfirst, ih hlines]
    rfl

/-! ## The line of a step -/

namespace Operation

theorem name_mem_names (op : Operation) : op.name ∈ names := by
  cases op <;> simp [name, names, arithmeticNames, plainNames]

theorem isBlank_render (op : Operation) : ∀ c ∈ op.render.toList, isBlank c = false := by
  have hname := isBlank_of_mem_names op.name_mem_names
  unfold render
  split
  next n _ =>
    rw [String.toList_append, String.toList_append]
    exact List.forall_mem_append.2
      ⟨List.forall_mem_append.2 ⟨hname, by simp [isBlank]⟩, Text.isBlank_renderInt64 n⟩
  next => exact hname

theorem render_ne_nil (op : Operation) : op.render.toList ≠ [] := by
  cases op <;> simp [render, operand?, name]

end Operation

namespace Output

/-- What stands on a line behind the value: an arrow and the output, if there is one. -/
def behindArrow : Option Output → List Char
  | some output => "  => ".toList ++ output.render.toList
  | none => []

theorem ne_newline_render (o : Output) : ∀ c ∈ o.render.toList, c ≠ '\n' := by
  cases o with
  | integer n => exact fun c hc => Text.ne_newline_of_isBlank (Text.isBlank_renderInt64 n c hc)
  | float x =>
    intro c hc
    rw [render, Decimal.Layout.render, String.toList_ofList] at hc
    exact Text.ne_newline_of_isBlank (Decimal.Layout.isBlank_bitsText _ _ c hc)
  | history entries =>
    exact fun c hc => Text.ne_newline_of_shown (Text.shown_quotedList entries c hc)

theorem ne_newline_behindArrow (output : Option Output) : ∀ c ∈ behindArrow output, c ≠ '\n' := by
  cases output with
  | none => nofun
  | some output => exact List.forall_mem_append.2 ⟨by simp, output.ne_newline_render⟩

end Output

namespace Step

/-- What a line shows of a step: two fields with the operation and the value and, if there is an
output, an arrow and the output behind them. -/
structure ShownBy (s : Step) (line : List Char) : Prop where
  fields_take : (fields line).take 2 = [s.operation.toList, (Text.renderInt64 s.value).toList]
  parts : ∃ lead, fields lead = [s.operation.toList, (Text.renderInt64 s.value).toList] ∧
    line = lead ++ Output.behindArrow s.output

variable {s : Step} {op : Operation}

/-- The operation and the value in their columns. -/
def lead (s : Step) : String :=
  Text.pad .left 12 s.operation ++ " " ++ Text.pad .right 8 (Text.renderInt64 s.value)

theorem toList_line (s : Step) :
    s.line.toList = s.lead.toList ++ Output.behindArrow s.output := by
  rw [line, ← lead, String.toList_append]
  cases s.output with
  | none => rfl
  | some output => exact congrArg (s.lead.toList ++ ·) (String.toList_append ..)

theorem isBlank_spaces (n : Nat) : ∀ c ∈ (Text.spaces n).toList, isBlank c = true := by
  intro c hc
  rw [Text.spaces, String.toList_ofList] at hc
  rw [List.eq_of_mem_replicate hc]
  rfl

/-- Padding puts blanks between the operation and the value, and no others. -/
theorem exists_toList_lead (s : Step) : ∃ blanks, (∀ c ∈ blanks, isBlank c = true) ∧ blanks ≠ [] ∧
    s.lead.toList = s.operation.toList ++ (blanks ++ (Text.renderInt64 s.value).toList) := by
  refine ⟨(Text.spaces (12 - s.operation.length)).toList ++ " ".toList ++
    (Text.spaces (8 - (Text.renderInt64 s.value).length)).toList, ?_, by simp, ?_⟩
  · exact List.forall_mem_append.2
      ⟨List.forall_mem_append.2 ⟨isBlank_spaces _, by simp [isBlank]⟩, isBlank_spaces _⟩
  · simp [lead, Text.pad]

theorem fields_lead (h : s.operation = op.render) : fields s.lead.toList =
    [s.operation.toList, (Text.renderInt64 s.value).toList] := by
  obtain ⟨blanks, hblanks, hne, hlead⟩ := s.exists_toList_lead
  obtain ⟨c, cs, hvalue, -⟩ := Text.head_renderInt s.value.toInt
  have hvalue : (Text.renderInt64 s.value).toList ≠ [] := by simp [Text.renderInt64, hvalue]
  have hoperation : fields s.operation.toList = [s.operation.toList] := by
    rw [h]
    exact Text.fields_of_forall op.isBlank_render op.render_ne_nil
  rw [hlead, Text.fields_append_blanks hblanks hne, hoperation,
    Text.fields_of_forall (Text.isBlank_renderInt64 s.value) hvalue]
  rfl

/-- What stands behind the value makes no field together with it. -/
theorem exists_fields_line (s : Step) :
    ∃ rest, fields s.line.toList = fields s.lead.toList ++ rest := by
  rw [s.toList_line]
  cases s.output with
  | none =>
    refine ⟨[], ?_⟩
    rw [List.append_nil]
    exact congrArg fields (List.append_nil _)
  | some output => exact ⟨_, Text.fields_append_cons rfl s.lead.toList _⟩

theorem shownBy_line (h : s.operation = op.render) : s.ShownBy s.line.toList where
  fields_take := by
    obtain ⟨rest, hrest⟩ := s.exists_fields_line
    rw [hrest, fields_lead h]
    exact List.take_left' rfl
  parts := ⟨s.lead.toList, fields_lead h, s.toList_line⟩

theorem newline_not_mem_line (h : s.operation = op.render) : '\n' ∉ s.line.toList := by
  have hblank {c : Char} (hc : isBlank c = false) : c ≠ '\n' := Text.ne_newline_of_isBlank hc
  have hspaces (n : Nat) : ∀ c ∈ (Text.spaces n).toList, c ≠ '\n' := by
    intro c hc
    rw [Text.spaces, String.toList_ofList] at hc
    rw [List.eq_of_mem_replicate hc]
    decide
  have hlead : ∀ c ∈ s.lead.toList, c ≠ '\n' := by
    simp only [lead, Text.pad, String.toList_append, List.forall_mem_append, h]
    exact ⟨⟨⟨fun c hc => hblank (op.isBlank_render c hc), hspaces _⟩, by simp⟩, hspaces _,
      fun c hc => hblank (Text.isBlank_renderInt64 s.value c hc)⟩
  have hline : ∀ c ∈ s.line.toList, c ≠ '\n' := by
    rw [s.toList_line]
    exact List.forall_mem_append.2 ⟨hlead, Output.ne_newline_behindArrow s.output⟩
  exact fun hmem => hline _ hmem rfl

end Step

/-! ## Listings -/

/-- The steps of a report have the names of operations. -/
theorem Script.Reports.exists_operation {s : Script} {initial : Int64} {policy : SqrtPolicy}
    {r : Report} (h : s.Reports initial policy r) :
    ∀ step ∈ r.steps, ∃ op : Operation, step.operation = op.render := by
  intro step hstep
  obtain ⟨i, hi⟩ := List.mem_iff_getElem?.1 hstep
  obtain ⟨op, -, -, -, -, -, hname, -⟩ := h.exists_step hi
  exact ⟨op, hname⟩

/-- The text has a line for each step of the report, in order, and then these lines. -/
def Report.ListedIn (r : Report) (text : String) (others : List String) : Prop :=
  ∃ lines, List.Forall₂ Step.ShownBy r.steps lines ∧
    text.toList.splitOn '\n' = lines ++ others.map String.toList ++ [[]]

theorem Report.listedIn_ended {r : Report}
    (h : ∀ step ∈ r.steps, ∃ op : Operation, step.operation = op.render) {others : List String}
    (hothers : ∀ line ∈ others, '\n' ∉ line.toList) :
    r.ListedIn (Answer.ended (r.steps.map Step.line ++ others)) others := by
  refine ⟨r.steps.map fun step => step.line.toList, ?_, ?_⟩
  · rw [List.forall₂_map_right_iff, List.forall₂_same]
    intro step hstep
    obtain ⟨op, hop⟩ := h step hstep
    exact Step.shownBy_line hop
  · rw [Answer.splitOn_ended, List.map_append, List.map_map]
    · rfl
    · refine List.forall_mem_append.2 ⟨fun line hline => ?_, hothers⟩
      obtain ⟨step, hstep, rfl⟩ := List.mem_map.1 hline
      obtain ⟨op, hop⟩ := h step hstep
      exact Step.newline_not_mem_line hop

/-- The last line of a run that succeeded. -/
theorem Report.newline_not_mem_final (r : Report) :
    ∀ line ∈ ["Final: " ++ Text.renderInt64 r.finalValue], '\n' ∉ line.toList := by
  have hvalue : ∀ c ∈ (Text.renderInt64 r.finalValue).toList, c ≠ '\n' := fun c hc =>
    Text.ne_newline_of_isBlank (Text.isBlank_renderInt64 _ c hc)
  rw [List.forall_mem_singleton, String.toList_append]
  exact fun hmem => List.forall_mem_append.2 ⟨by simp, hvalue⟩ _ hmem rfl

theorem Script.answer_of_ok {variant : Variant} {texts : List String} {script : Script}
    {initial : Int64} {policy : SqrtPolicy} {r : Report} (h : parse variant texts = .ok script)
    (hr : script.execute initial policy = .ok r) :
    answer variant initial policy texts = r.answer := by
  simp only [answer, h, hr]

theorem Script.answer_of_error {variant : Variant} {texts : List String} {script : Script}
    {initial : Int64} {policy : SqrtPolicy} {f : Failure} (h : parse variant texts = .ok script)
    (hf : script.execute initial policy = .error f) :
    answer variant initial policy texts = f.answer := by
  simp only [answer, h, hf]

/-- **Both forms of a run tell the same.** The text lists the steps of the report that the envelope
holds, and ends with the last value if and only if the run succeeded; the complaint about one that
failed is the message of the envelope. -/
theorem Command.perform_run_agrees {variant : Variant} {texts : List String} {script : Script}
    (h : Script.parse variant texts = .ok script) (initial : Option Int64) (s : Settings)
    (tree : FileTree) (here : Location) :
    ∃ (r : Report) (e : Envelope),
      ((run variant initial texts).perform s true tree here).stdout = e.render ++ "\n" ∧
      e.data = some r.toJson ∧
      ((script.execute (initial.getD s.defaults.initialValue) s.scientific.negativeSqrt = .ok r ∧
          r.ListedIn ((run variant initial texts).perform s false tree here).stdout
            ["Final: " ++ Text.renderInt64 r.finalValue] ∧
          ((run variant initial texts).perform s false tree here).stderr = "") ∨
        ∃ f, script.execute (initial.getD s.defaults.initialValue) s.scientific.negativeSqrt =
            .error f ∧ f.completed = r ∧
          r.ListedIn ((run variant initial texts).perform s false tree here).stdout [] ∧
          ((run variant initial texts).perform s false tree here).stderr =
            "Error: " ++ e.message ++ "\n") := by
  -- Both forms come from the same answer, whatever the form: only its rendering differs.
  have hexecute : (run variant initial texts).execute s tree here =
      .ok (Script.answer variant (initial.getD s.defaults.initialValue) s.scientific.negativeSqrt
        texts, tree) := rfl
  cases hrun : script.execute (initial.getD s.defaults.initialValue)
      s.scientific.negativeSqrt with
  | ok r =>
    rw [Script.answer_of_ok h hrun] at hexecute
    rw [perform_of_execute hexecute, perform_of_execute hexecute]
    have hnames := (Script.Reports.whole hrun).exists_operation
    exact ⟨r, _, rfl, rfl, .inl ⟨rfl, Report.listedIn_ended hnames r.newline_not_mem_final, rfl⟩⟩
  | error f =>
    rw [Script.answer_of_error h hrun] at hexecute
    rw [perform_of_execute hexecute, perform_of_execute hexecute]
    have hnames := (Script.Reports.completed hrun).exists_operation
    have hlisted : f.completed.ListedIn (Answer.ended (f.completed.steps.map Step.line ++ [])) [] :=
      Report.listedIn_ended hnames nofun
    rw [List.append_nil] at hlisted
    exact ⟨f.completed, _, rfl, rfl, .inr ⟨f, rfl, rfl, hlisted, rfl⟩⟩

/-- A run that fails behind a long operand and a history. -/
theorem Command.perform_run_agrees_failed :
    ∃ (r : Report) (e : Envelope),
      ((run .advanced (some 5) ["sub:-9223372036854775808", "history", "div:0"]).perform {} true
        (.directory []) []).stdout = e.render ++ "\n" ∧ e.data = some r.toJson ∧
      r.ListedIn ((run .advanced (some 5) ["sub:-9223372036854775808", "history", "div:0"]).perform
        {} false (.directory []) []).stdout [] ∧ r.steps.length = 2 := by
  have hparse : Script.parse .advanced ["sub:-9223372036854775808", "history", "div:0"] =
      .ok ⟨.advanced, [.subtract Int64.minValue, .history, .divide 0], by decide⟩ := rfl
  obtain ⟨r, e, hjson, hdata, ⟨hok, -, -⟩ | ⟨f, herror, rfl, hlisted, -⟩⟩ :=
    perform_run_agrees hparse (some 5) {} (.directory []) []
  · cases hok
  · cases herror
    exact ⟨_, e, hjson, hdata, hlisted, rfl⟩

end Abacus
