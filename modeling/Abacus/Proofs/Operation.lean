import Abacus.Operation
import Abacus.Proofs.Text.Blanks
import Abacus.Proofs.Text.Integers

/-!
# The grammar of operation texts

A text spells a name and perhaps an operand (`Operation.Spells`); the name and what stands for the
operand decide what the text is read as (`Operation.Reads`). Each rule covers the texts that no
other rule covers, and reading follows the rules (`Operation.parse_eq_iff`).

The canonical text of an operation is one of those that are read as it (`Operation.reads_render`).
-/

namespace Abacus.Operation

open Text (Trimmed WrittenInt64 RefusedInt64 lowerAscii)

/-! ## The rules -/

/-- The names that need an operand. -/
def arithmeticNames : List (String × (Int64 → Operation)) :=
  [("add", add), ("sub", subtract), ("subtract", subtract), ("mul", multiply),
    ("multiply", multiply), ("div", divide), ("divide", divide)]

/-- The names that take no operand. -/
def plainNames : List (String × Operation) :=
  [("value", value), ("get", value), ("reset", reset), ("store", storeMemory),
    ("recall", recallMemory), ("clear", clearMemory), ("sqrt", squareRoot), ("history", history)]

/-- The names of operations. -/
def names : List String := arithmeticNames.map Prod.fst ++ plainNames.map Prod.fst

/-- What a text spells: a name in small letters, and an operand if there is a colon. The first
colon ends the name. -/
inductive Spells (cs : List Char) : String → Option (List Char) → Prop
  | name {t : List Char} : Trimmed cs t → ':' ∉ t →
      Spells cs (String.ofList (lowerAscii t)) none
  | operand {a b t o : List Char} : Trimmed cs (a ++ ':' :: b) → ':' ∉ a →
      Trimmed a t → Trimmed b o → Spells cs (String.ofList (lowerAscii t)) (some o)

/-- What a text is read as. -/
inductive Reads (s : String) : Except ScriptError Operation → Prop
  | unknown {name : String} {operand : Option (List Char)} :
      Spells s.toList name operand → name ∉ names →
      Reads s (.error (.unknownOperation s))
  | missing {name : String} {make : Int64 → Operation} :
      Spells s.toList name none → (name, make) ∈ arithmeticNames →
      Reads s (.error (.missingOperand name))
  | arithmetic {name : String} {make : Int64 → Operation} {o : List Char} {n : Int64} :
      Spells s.toList name (some o) → (name, make) ∈ arithmeticNames → WrittenInt64 o n →
      Reads s (.ok (make n))
  | invalid {name : String} {make : Int64 → Operation} {o : List Char}
      {reason : Text.IntegerError} :
      Spells s.toList name (some o) → (name, make) ∈ arithmeticNames →
      (∀ n, ¬WrittenInt64 o n) → RefusedInt64 o reason →
      Reads s (.error (.invalidOperand name (String.ofList o) reason))
  | plain {name : String} {op : Operation} :
      Spells s.toList name none → (name, op) ∈ plainNames → Reads s (.ok op)
  | unexpected {name : String} {op : Operation} {o : List Char} :
      Spells s.toList name (some o) → (name, op) ∈ plainNames →
      Reads s (.error (.unexpectedOperand name))

/-! ## Names -/

theorem form?_of_mem_arithmeticNames {name : String} {make : Int64 → Operation}
    (h : (name, make) ∈ arithmeticNames) : form? name = some (.arithmetic make) := by
  simp only [arithmeticNames, List.mem_cons, Prod.mk.injEq, List.not_mem_nil, or_false] at h
  rcases h with ⟨rfl, rfl⟩ | ⟨rfl, rfl⟩ | ⟨rfl, rfl⟩ | ⟨rfl, rfl⟩ | ⟨rfl, rfl⟩ | ⟨rfl, rfl⟩ |
    ⟨rfl, rfl⟩ <;> rfl

theorem form?_of_mem_plainNames {name : String} {op : Operation}
    (h : (name, op) ∈ plainNames) : form? name = some (.plain op) := by
  simp only [plainNames, List.mem_cons, Prod.mk.injEq, List.not_mem_nil, or_false] at h
  rcases h with ⟨rfl, rfl⟩ | ⟨rfl, rfl⟩ | ⟨rfl, rfl⟩ | ⟨rfl, rfl⟩ | ⟨rfl, rfl⟩ | ⟨rfl, rfl⟩ |
    ⟨rfl, rfl⟩ | ⟨rfl, rfl⟩ <;> rfl

theorem form?_of_not_mem_names {name : String} (h : name ∉ names) : form? name = none := by
  unfold form?
  split <;> simp_all [names, arithmeticNames, plainNames]

/-! ## Name and operand -/

/-- Every text spells one name and operand. -/
theorem nameAndOperand_eq_iff {cs : List Char} {name : String} {operand : Option (List Char)} :
    nameAndOperand cs = (name, operand) ↔ Spells cs name operand := by
  constructor
  · intro h
    have htrim := Text.trimmed_trim cs
    rw [nameAndOperand] at h
    cases hcut : Text.cut ':' (Text.trim cs) with
    | none =>
      simp only [hcut] at h
      cases h
      exact .name htrim (Text.cut_eq_none_iff.1 hcut)
    | some p =>
      obtain ⟨a, b⟩ := p
      simp only [hcut] at h
      cases h
      obtain ⟨htext, hcolon⟩ := Text.cut_eq_some_iff.1 hcut
      rw [htext] at htrim
      exact .operand htrim hcolon (Text.trimmed_trim a) (Text.trimmed_trim b)
  · intro h
    cases h with
    | name htrim hcolon =>
      have hcut := Text.cut_eq_none_iff.2 hcolon
      simp only [nameAndOperand, Text.trim_of_trimmed htrim, hcut]
    | @operand a b t o htrim hcolon ha hb =>
      have hcut : Text.cut ':' (a ++ ':' :: b) = some (a, b) :=
        Text.cut_eq_some_iff.2 ⟨rfl, hcolon⟩
      simp only [nameAndOperand, Text.trim_of_trimmed htrim, hcut, Text.trim_of_trimmed ha,
        Text.trim_of_trimmed hb]

/-! ## Reading -/

theorem parse_of_reads {s : String} {r : Except ScriptError Operation} (h : Reads s r) :
    parse s = r := by
  cases h with
  | unknown hspells hname =>
    simp only [parse, nameAndOperand_eq_iff.2 hspells, form?_of_not_mem_names hname]
  | missing hspells hname =>
    simp only [parse, nameAndOperand_eq_iff.2 hspells, form?_of_mem_arithmeticNames hname]
  | arithmetic hspells hname hwritten =>
    simp only [parse, nameAndOperand_eq_iff.2 hspells, form?_of_mem_arithmeticNames hname,
      Text.readInt64_eq_ok.2 hwritten]
  | invalid hspells hname _ hrefused =>
    simp only [parse, nameAndOperand_eq_iff.2 hspells, form?_of_mem_arithmeticNames hname,
      Text.readInt64_eq_error.2 hrefused]
  | plain hspells hname =>
    simp only [parse, nameAndOperand_eq_iff.2 hspells, form?_of_mem_plainNames hname]
  | unexpected hspells hname =>
    simp only [parse, nameAndOperand_eq_iff.2 hspells, form?_of_mem_plainNames hname]

/-- One of the rules covers every text. -/
theorem exists_reads (s : String) : ∃ r, Reads s r := by
  obtain ⟨name, operand, hspells⟩ : ∃ name operand, Spells s.toList name operand :=
    ⟨_, _, nameAndOperand_eq_iff.1 rfl⟩
  by_cases hname : name ∈ names
  · rw [names, List.mem_append, List.mem_map, List.mem_map] at hname
    rcases hname with ⟨⟨_, make⟩, hmem, rfl⟩ | ⟨⟨_, op⟩, hmem, rfl⟩
    · cases operand with
      | none => exact ⟨_, .missing hspells hmem⟩
      | some o =>
        cases hread : Text.readInt64 o with
        | ok n => exact ⟨_, .arithmetic hspells hmem (Text.readInt64_eq_ok.1 hread)⟩
        | error reason =>
          have hnone : ∀ n, ¬WrittenInt64 o n := by
            intro n hn
            rw [Text.readInt64_eq_ok.2 hn] at hread
            cases hread
          exact ⟨_, .invalid hspells hmem hnone (Text.readInt64_eq_error.1 hread)⟩
    · cases operand with
      | none => exact ⟨_, .plain hspells hmem⟩
      | some o => exact ⟨_, .unexpected hspells hmem⟩
  · exact ⟨_, .unknown hspells hname⟩

/-- Reading follows the rules, for every text. -/
theorem parse_eq_iff (s : String) (r : Except ScriptError Operation) :
    parse s = r ↔ Reads s r := by
  refine ⟨?_, parse_of_reads⟩
  rintro rfl
  obtain ⟨r, hr⟩ := exists_reads s
  rwa [parse_of_reads hr]

example : parse "\u00a0 Sub :\t-0012 " = .ok (.subtract (-12)) := by rfl

example : parse "add:1:2" = .error (.invalidOperand "add" "1:2" .invalidDigit) := by rfl

/-! ## Canonical texts -/

theorem isBlank_of_mem_names {name : String} (h : name ∈ names) :
    ∀ c ∈ name.toList, Text.isBlank c = false := by
  have hnone : ∀ name ∈ names, name.toList.any Text.isBlank = false := by decide
  intro c hc
  exact Bool.eq_false_iff.2 (List.any_eq_false.1 (hnone name h) c hc)

/-- Names are in small letters, and no colon stands in them. -/
theorem canonical_of_mem_names : ∀ name ∈ names,
    String.ofList (lowerAscii name.toList) = name ∧ ':' ∉ name.toList := by
  decide

theorem spells_name {name : String} (h : name ∈ names) : Spells name.toList name none := by
  obtain ⟨hlower, hcolon⟩ := canonical_of_mem_names name h
  have hspells : Spells name.toList (String.ofList (lowerAscii name.toList)) none :=
    .name (Text.trimmed_self (isBlank_of_mem_names h)) hcolon
  rwa [hlower] at hspells

theorem spells_operand {name : String} {o : List Char} (h : name ∈ names)
    (ho : ∀ c ∈ o, Text.isBlank c = false) :
    Spells (name.toList ++ ':' :: o) name (some o) := by
  obtain ⟨hlower, hcolon⟩ := canonical_of_mem_names name h
  have hname := isBlank_of_mem_names h
  have hall : ∀ c ∈ name.toList ++ ':' :: o, Text.isBlank c = false := by
    intro c hc
    rcases List.mem_append.1 hc with hc | hc
    · exact hname c hc
    · rcases List.mem_cons.1 hc with rfl | hc
      · rfl
      · exact ho c hc
  have hspells : Spells (name.toList ++ ':' :: o)
      (String.ofList (lowerAscii name.toList)) (some o) :=
    .operand (Text.trimmed_self hall) hcolon (Text.trimmed_self hname) (Text.trimmed_self ho)
  rwa [hlower] at hspells

theorem reads_arithmetic {name : String} {make : Int64 → Operation}
    (h : (name, make) ∈ arithmeticNames) (n : Int64) :
    Reads (name ++ ":" ++ Text.renderInt64 n) (.ok (make n)) := by
  have hwritten := Text.written_renderInt64 n
  have hmem : name ∈ names := List.mem_append_left _ (List.mem_map.2 ⟨_, h, rfl⟩)
  have hspells := spells_operand hmem (Text.isBlank_of_written hwritten)
  have htext : (name ++ ":" ++ Text.renderInt64 n).toList =
      name.toList ++ ':' :: (Text.renderInt64 n).toList := by
    simp
  rw [← htext] at hspells
  exact .arithmetic hspells h hwritten

theorem reads_plain {name : String} {op : Operation} (h : (name, op) ∈ plainNames) :
    Reads name (.ok op) :=
  .plain (spells_name (List.mem_append_right _ (List.mem_map.2 ⟨_, h, rfl⟩))) h

/-- The canonical text of an operation is read as that operation. -/
theorem reads_render (op : Operation) : Reads op.render (.ok op) := by
  cases op with
  | add n | subtract n | multiply n | divide n =>
    exact reads_arithmetic (by simp [arithmeticNames, name]) n
  | value | reset | storeMemory | recallMemory | clearMemory | squareRoot | history =>
    exact reads_plain (by simp [plainNames, render, operand?, name])

end Abacus.Operation
