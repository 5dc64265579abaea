import Abacus.Proofs.Script

/-!
# Checked scripts

The check of operation texts comes to one of three verdicts (`Script.Verdict`): a text that is no
operation goes before an operation that the variant does not support, wherever the two stand, and
only without either is there a script (`Script.parse_verdict`).

The check is enough for a run. A run comes to operations of the script alone, and on a machine of
the script's variant (`Machine.Tries`), which has a step for each of them. A run would be missing
only if there were no such step (`Machine.run?_eq_none_iff`).
-/

namespace Abacus

/-! ## Verdicts -/

namespace Script

/-- What the check of operation texts comes to. -/
inductive Verdict (variant : Variant) (texts : List String) : Except ScriptError Script → Prop
  | unreadable {before after : List String} {text : String} {e : ScriptError} :
      texts = before ++ text :: after → (∀ t ∈ before, ∃ op, Operation.parse t = .ok op) →
      Operation.parse text = .error e → Verdict variant texts (.error e)
  | unsupported {before after : List Operation} {op : Operation} :
      texts.map Operation.parse = (before ++ op :: after).map .ok →
      (∀ op' ∈ before, variant.supports op' = true) → variant.supports op = false →
      Verdict variant texts (.error (.unsupported op.name variant))
  | accepted {s : Script} : texts.map Operation.parse = s.operations.map .ok →
      s.variant = variant → Verdict variant texts (.ok s)

theorem parseAll_cons_of_ok {text : String} {op : Operation} (h : Operation.parse text = .ok op)
    (texts : List String) : parseAll (text :: texts) = (parseAll texts).map (op :: ·) := by
  rw [parseAll, h]
  cases parseAll texts <;> rfl

theorem parseAll_cons_of_error {text : String} {e : ScriptError}
    (h : Operation.parse text = .error e) (texts : List String) :
    parseAll (text :: texts) = .error e := by
  rw [parseAll, h]
  rfl

/-- Texts of operations are read one for one, ... -/
theorem parseAll_of_ok {texts : List String} {ops : List Operation}
    (h : texts.map Operation.parse = ops.map .ok) : parseAll texts = .ok ops := by
  induction texts generalizing ops with
  | nil =>
    rw [List.map_nil, eq_comm, List.map_eq_nil_iff] at h
    rw [h]
    rfl
  | cons text texts ih =>
    cases ops with
    | nil => cases h
    | cons op ops =>
      obtain ⟨hop, hops⟩ := List.cons.inj h
      rw [parseAll_cons_of_ok hop, ih hops]
      rfl

/-- ... and the first other text decides. -/
theorem parseAll_of_error {before after : List String} {text : String} {e : ScriptError}
    (hbefore : ∀ t ∈ before, ∃ op, Operation.parse t = .ok op)
    (htext : Operation.parse text = .error e) : parseAll (before ++ text :: after) = .error e := by
  induction before with
  | nil => exact parseAll_cons_of_error htext after
  | cons t before ih =>
    obtain ⟨op, hop⟩ := hbefore t List.mem_cons_self
    have hrest := ih fun t' ht' => hbefore t' (List.mem_cons_of_mem _ ht')
    rw [List.cons_append, parseAll_cons_of_ok hop, hrest]
    rfl

/-- Either every text is an operation, or there is a first one that is not. -/
theorem readable_or_unreadable (texts : List String) :
    (∃ ops : List Operation, texts.map Operation.parse = ops.map .ok) ∨
      ∃ before text after e, texts = before ++ text :: after ∧
        (∀ t ∈ before, ∃ op, Operation.parse t = .ok op) ∧ Operation.parse text = .error e := by
  induction texts with
  | nil => exact .inl ⟨[], rfl⟩
  | cons text texts ih =>
    cases htext : Operation.parse text with
    | error e => exact .inr ⟨[], text, texts, e, rfl, nofun, htext⟩
    | ok op =>
      rcases ih with ⟨ops, hops⟩ | ⟨before, text', after, e, rfl, hbefore, he⟩
      · refine .inl ⟨op :: ops, ?_⟩
        rw [List.map_cons, htext, hops]
        rfl
      · refine .inr ⟨text :: before, text', after, e, rfl, ?_, he⟩
        exact List.forall_mem_cons.2 ⟨⟨op, htext⟩, hbefore⟩

theorem ofOperations_of_supported (s : Script) :
    ofOperations s.variant s.operations = .ok s := by
  unfold ofOperations
  split
  next op hop =>
    have hunsupported := List.find?_some hop
    rw [s.supported op (List.mem_of_find?_eq_some hop)] at hunsupported
    cases hunsupported
  next => rfl

theorem ofOperations_of_unsupported {variant : Variant} {before after : List Operation}
    {op : Operation} (hbefore : ∀ op' ∈ before, variant.supports op' = true)
    (hop : variant.supports op = false) :
    ofOperations variant (before ++ op :: after) = .error (.unsupported op.name variant) := by
  have hfind : (before ++ op :: after).find? (fun op => !variant.supports op) = some op := by
    refine List.find?_eq_some_iff_append.2 ⟨by simp [hop], before, after, rfl, ?_⟩
    intro op' hop'
    simp [hbefore op' hop']
  unfold ofOperations
  split
  next op' hop' =>
    rw [hfind] at hop'
    cases hop'
    rfl
  next hnone =>
    rw [hfind] at hnone
    cases hnone

/-- Either the variant supports every operation, or there is a first one that it does not. -/
theorem supported_or_unsupported (variant : Variant) (ops : List Operation) :
    (∀ op ∈ ops, variant.supports op = true) ∨
      ∃ before op after, ops = before ++ op :: after ∧
        (∀ op' ∈ before, variant.supports op' = true) ∧ variant.supports op = false := by
  cases hfind : ops.find? (fun op => !variant.supports op) with
  | none => exact .inl (by simpa using hfind)
  | some op =>
    obtain ⟨hop, before, after, rfl, hbefore⟩ := List.find?_eq_some_iff_append.1 hfind
    exact .inr ⟨before, op, after, rfl, by simpa using hbefore, by simpa using hop⟩

theorem parse_of_verdict {variant : Variant} {texts : List String}
    {r : Except ScriptError Script} (h : Verdict variant texts r) : parse variant texts = r := by
  cases h with
  | unreadable htexts hbefore herror =>
    rw [parse, htexts, parseAll_of_error hbefore herror]
    rfl
  | unsupported hops hbefore hop =>
    rw [parse, parseAll_of_ok hops]
    exact ofOperations_of_unsupported hbefore hop
  | @accepted s hops hvariant =>
    rw [parse, parseAll_of_ok hops, ← hvariant]
    exact ofOperations_of_supported s

theorem exists_verdict (variant : Variant) (texts : List String) :
    ∃ r, Verdict variant texts r := by
  rcases readable_or_unreadable texts with
    ⟨ops, hops⟩ | ⟨before, text, after, e, htexts, hbefore, he⟩
  · rcases supported_or_unsupported variant ops with hall | ⟨before, op, after, rfl, hbefore, hop⟩
    · exact ⟨.ok ⟨variant, ops, hall⟩, .accepted hops rfl⟩
    · exact ⟨_, .unsupported hops hbefore hop⟩
  · exact ⟨_, .unreadable htexts hbefore he⟩

end Script

/-! ## Runs -/

namespace Machine

/-- A run of the first machine with these operations comes to an operation, on the machine as it is
by then. -/
inductive Tries : Machine → List Operation → Machine → Operation → Prop
  | first {m : Machine} {op : Operation} {rest : List Operation} : Tries m (op :: rest) m op
  | later {m m' m'' : Machine} {op op' : Operation} {rest : List Operation}
      {output : Option Output} : m.step? op = some (.ok (m', output)) → Tries m' rest m'' op' →
      Tries m (op :: rest) m'' op'

theorem Tries.mem {m m' : Machine} {ops : List Operation} {op : Operation}
    (h : m.Tries ops m' op) : op ∈ ops := by
  induction h with
  | first => exact List.mem_cons_self
  | later _ _ ih => exact List.mem_cons_of_mem _ ih

/-- A machine keeps its variant throughout a run. -/
theorem Tries.variant_eq {m m' : Machine} {ops : List Operation} {op : Operation}
    (h : m.Tries ops m' op) : m'.variant = m.variant := by
  induction h with
  | first => rfl
  | later hstep _ ih => rw [ih, variant_of_step? hstep]

/-- There is no run exactly if an operation comes up that the machine has no step for. -/
theorem run?_eq_none_iff {m : Machine} {ops : List Operation} :
    m.run? ops = none ↔ ∃ m' op, m.Tries ops m' op ∧ m'.step? op = none := by
  induction ops generalizing m with
  | nil =>
    constructor
    · intro h
      cases h
    · rintro ⟨m', op, ⟨⟩, -⟩
  | cons op rest ih =>
    rw [run?]
    rcases hstep : m.step? op with - | (e | ⟨next, output⟩)
    · exact ⟨fun _ => ⟨m, op, .first, hstep⟩, fun _ => rfl⟩
    · constructor
      · intro h
        cases h
      rintro ⟨m', op', htries, hnone⟩
      cases htries with
      | first =>
        rw [hstep] at hnone
        cases hnone
      | later hok _ =>
        rw [hstep] at hok
        cases hok
    · rw [Option.map_eq_none_iff, ih]
      constructor
      · rintro ⟨m', op', htries, hnone⟩
        exact ⟨m', op', .later hstep htries, hnone⟩
      · rintro ⟨m', op', htries, hnone⟩
        cases htries with
        | first =>
          rw [hstep] at hnone
          cases hnone
        | later hok htries =>
          rw [hstep] at hok
          cases hok
          exact ⟨m', op', htries, hnone⟩

end Machine

namespace Script

theorem supports_of_tries {s : Script} {initial : Int64} {policy : SqrtPolicy} {m : Machine}
    {op : Operation} (h : (s.machine initial policy).Tries s.operations m op) :
    m.variant.supports op = true := by
  rw [h.variant_eq]
  exact s.supports_machine initial policy op h.mem

/-- Checking texts gives the verdict on them. A script that was checked runs: it never comes to an
operation that its machine has no step for. Without the check it would, since no machine has a step
for an operation that its variant does not support. -/
theorem parse_verdict :
    (∀ (variant : Variant) (texts : List String) (r : Except ScriptError Script),
      parse variant texts = r ↔ Verdict variant texts r) ∧
    (∀ s : Script, ((∃ variant ops, ofOperations variant ops = .ok s) ∨
        ∃ variant texts, parse variant texts = .ok s) →
      ∀ (initial : Int64) (policy : SqrtPolicy),
        (∀ m op, (s.machine initial policy).Tries s.operations m op →
          ∃ result, m.step? op = some result) ∧
        (s.machine initial policy).run? s.operations ≠ none) ∧
    ∀ (m : Machine) (op : Operation), m.variant.supports op = false → m.step? op = none := by
  refine ⟨?_, ?_, ?_⟩
  · intro variant texts r
    refine ⟨?_, parse_of_verdict⟩
    rintro rfl
    obtain ⟨r, hr⟩ := exists_verdict variant texts
    rwa [parse_of_verdict hr]
  · intro s _ initial policy
    have hstep : ∀ m op, (s.machine initial policy).Tries s.operations m op →
        ∃ result, m.step? op = some result := by
      intro m op htries
      rw [← Option.isSome_iff_exists, Machine.isSome_step?_iff]
      exact supports_of_tries htries
    refine ⟨hstep, fun hrun => ?_⟩
    obtain ⟨m, op, htries, hnone⟩ := Machine.run?_eq_none_iff.1 hrun
    obtain ⟨result, hresult⟩ := hstep m op htries
    rw [hresult] at hnone
    cases hnone
  · intro m op hop
    rw [← Option.isNone_iff_eq_none, ← Option.isSome_eq_false_iff, Machine.isSome_step?_iff]
    exact hop

/-- An unsupported operation in front of an unknown one, the third operation of a script, and a
square root on the machine of another variant. -/
theorem parse_verdict_history :
    parse .basic ["store", "pow:2", "history"] = .error (.unknownOperation "pow:2") ∧
      (∃ result, (Machine.start .advanced 7 .nan).reset.step? .history = some result) ∧
      (Machine.start .advanced 7 .nan).step? .squareRoot = none := by
  obtain ⟨hverdict, hruns, hmissing⟩ := parse_verdict
  have hstore : Operation.parse "store" = .ok .storeMemory := by rfl
  have hpow : Operation.parse "pow:2" = .error (.unknownOperation "pow:2") := by rfl
  refine ⟨?_, ?_, hmissing _ _ rfl⟩
  · have hbefore : ∀ t ∈ ["store"], ∃ op, Operation.parse t = .ok op := by
      intro t ht
      rw [List.mem_singleton.1 ht]
      exact ⟨_, hstore⟩
    exact (hverdict .basic _ _).2 (.unreadable rfl hbefore hpow)
  · have hchecked : ofOperations .advanced [.reset, .history] =
        .ok ⟨.advanced, [.reset, .history], by decide⟩ := by
      rfl
    exact (hruns _ (.inl ⟨_, _, hchecked⟩) 7 .nan).1 _ _ (.later rfl .first)

end Script

end Abacus
