import Abacus.CommandLine.Parser
import Abacus.Proofs.Text.Integers
import Mathlib.Data.List.Induction

/-!
# Words of a command line

A command line is written in *words*: an option with its value, in one of three spellings, or a
value of the command. Each word says one thing, wherever it stands (`Word.addTo`), so that what a
list of words comes to can be said without reading it (`Given.addAll`).

Words that are for every command leave what the others say alone (`Given.addAll_eq`).
-/

namespace Abacus.CommandLine

/-! ## Words -/

/-- How an option is written with its value. -/
inductive Spelling where
  /-- The long name, and the value behind it. -/
  | apart
  /-- The long name with the value attached. -/
  | joined
  /-- The letter, and the value behind it. -/
  | letter
  deriving DecidableEq

namespace ValueOption

def name : ValueOption → String
  | config => "config"
  | initial => "initial"
  | variant => "variant"

def letter : ValueOption → Char
  | config => 'c'
  | initial => 'i'
  | variant => 'v'

end ValueOption

/-- The arguments of an option with a value. -/
def Spelling.args (o : ValueOption) (value : String) : Spelling → List String
  | apart => ["--" ++ o.name, value]
  | joined => ["--" ++ o.name ++ "=" ++ value]
  | letter => [String.ofList ['-', o.letter], value]

/-- A path of a settings file that does not look like an option. -/
structure PlainPath where
  text : String
  text_ne : text ≠ ""
  head_ne : text.toList.head? ≠ some '-'

/-- Arguments that belong together. -/
inductive Word where
  | json
  | config (s : Spelling) (path : PlainPath)
  | initial (s : Spelling) (n : Int64)
  | variant (s : Spelling) (v : Variant)
  | number (n : Int64)
  | operation (op : Operation)

namespace Word

def args : Word → List String
  | json => ["--json"]
  | config s path => s.args .config path.text
  | initial s n => s.args .initial (Text.renderInt64 n)
  | variant s v => s.args .variant v.name
  | number n => [Text.renderInt64 n]
  | operation op => [op.render]

/-- The option that a word gives. -/
def opt? : Word → Option Opt
  | json => some (.switch .json)
  | config .. => some (.value .config)
  | initial .. => some (.value .initial)
  | variant .. => some (.value .variant)
  | number _ | operation _ => none

/-- The word is for every command, and can stand in front of its name as well. -/
def isGlobal : Word → Bool
  | json | config .. => true
  | _ => false

def isJson : Word → Bool
  | json => true
  | _ => false

def path? : Word → Option String
  | config _ path => some path.text
  | _ => none

/-- What is given with a word behind what was given before. -/
def addTo (g : Given) : Word → Given
  | json => { g with json := true }
  | config _ path => { g with config := some path.text }
  | initial _ n => { g with initial := some n }
  | variant _ v => { g with variant := some v }
  | number n => { g with numbers := g.numbers ++ [n] }
  | operation op => { g with operations := g.operations ++ [op.render] }

end Word

/-- What is given with words behind what was given before. -/
def Given.addAll (g : Given) (ws : List Word) : Given := ws.foldl Word.addTo g

@[simp] theorem Given.addAll_nil (g : Given) : g.addAll [] = g := rfl

@[simp] theorem Given.addAll_cons (g : Given) (w : Word) (ws : List Word) :
    g.addAll (w :: ws) = (w.addTo g).addAll ws := rfl

theorem Given.addAll_append (g : Given) (ws ws' : List Word) :
    g.addAll (ws ++ ws') = (g.addAll ws).addAll ws' := List.foldl_append

/-- No option is given twice. -/
def NoneTwice (ws : List Word) : Prop :=
  ws.Pairwise fun w w' => w.opt? = none ∨ w.opt? ≠ w'.opt?

instance (ws : List Word) : Decidable (NoneTwice ws) :=
  inferInstanceAs (Decidable (ws.Pairwise fun w w' => w.opt? = none ∨ w.opt? ≠ w'.opt?))

/-! ## Options of a level -/

/-- The level has the option. -/
def Level.has (level : Level) : ValueOption → Bool
  | .config => true
  | .initial => level.hasInitial
  | .variant => level = .command .run

/-- The word can be said on the level. -/
def Level.allows (level : Level) : Word → Bool
  | .json => true
  | .config .. => level.has .config
  | .initial .. => level.has .initial
  | .variant .. => level.has .variant
  | .number _ => level.takesNumbers
  | .operation _ => level = .command .run

theorem allows_of_isGlobal {level : Level} {w : Word} (h : w.isGlobal = true) :
    level.allows w = true := by
  cases w <;> first | rfl | cases h

theorem lookup_options {level : Level} {o : ValueOption} (h : level.has o = true) :
    level.longOptions.lookup o.name = some (.value o) ∧
      level.shortOptions.lookup o.letter = some (.value o) := by
  cases o with
  | config => cases level <;> exact ⟨rfl, rfl⟩
  | initial =>
    rcases level with - | name
    · cases h
    · cases name <;> first | exact ⟨rfl, rfl⟩ | cases h
  | variant =>
    obtain rfl : level = .command .run := of_decide_eq_true h
    exact ⟨rfl, rfl⟩

theorem lookup_json (level : Level) : level.longOptions.lookup "json" = some (.switch .json) := by
  cases level <;> rfl

/-! ## Arguments that are no options -/

/-- A minus sign and digits. -/
def IsNegative (arg : String) : Prop :=
  ∃ d ds, arg.toList = '-' :: d :: ds ∧ ∀ c ∈ d :: ds, c.isDigit = true

theorem plain_or_negative (n : Int64) :
    (Text.renderInt64 n).toList.head? ≠ some '-' ∨ IsNegative (Text.renderInt64 n) := by
  obtain ⟨d, ds, hds⟩ := List.exists_cons_of_ne_nil (Text.natDigits_ne_nil n.toInt.natAbs)
  have hdigits : ∀ c ∈ d :: ds, c.isDigit = true := by
    intro c hc
    rw [← hds] at hc
    exact Text.isDigit_of_mem_natDigits hc
  by_cases hn : n.toInt < 0
  · right
    refine ⟨d, ds, ?_, hdigits⟩
    rw [Text.renderInt64, Text.toList_renderInt_of_neg hn, hds]
  · left
    rw [Text.renderInt64, Text.toList_renderInt_of_nonneg (by omega), hds]
    intro hhead
    cases hhead
    exact absurd (hdigits '-' List.mem_cons_self) (by decide)

theorem head_render (op : Operation) : op.render.toList.head? ≠ some '-' := by
  cases op <;> simp [Operation.render, Operation.operand?, Operation.name]

/-! ## Checking -/

theorem readNumber_renderInt64 (n : Int64) : readNumber (Text.renderInt64 n) = .ok n := by
  rw [readNumber, Text.readInt64_eq_ok.2 (Text.written_renderInt64 n)]
  rfl

theorem ofName?_name (v : Variant) : Variant.ofName? v.name = some v := by
  cases v <;> decide

namespace Given

variable {g g' g'' : Given} {level : Level} {w w' : Word}

/-- What the word says has not been said. -/
def Lacks (g : Given) : Word → Prop
  | .json => g.json = false
  | .config .. => g.config = none
  | .initial .. => g.initial = none
  | .variant .. => g.variant = none
  | .number _ | .operation _ => True

theorem lacks_empty (w : Word) : ({} : Given).Lacks w := by
  cases w <;> trivial

theorem Lacks.addTo (h : g.Lacks w) (hne : w'.opt? = none ∨ w'.opt? ≠ w.opt?) :
    (w'.addTo g).Lacks w := by
  cases w <;> cases w' <;> first | exact h | exact absurd hne (by simp [Word.opt?])

theorem accept_config (h : g.config = none) (path : PlainPath) :
    g.accept .config path.text = .ok { g with config := some path.text } := by
  simp [accept, h, path.text_ne]

theorem accept_initial (h : g.initial = none) (n : Int64) :
    g.accept .initial (Text.renderInt64 n) = .ok { g with initial := some n } := by
  simp [accept, h, readNumber_renderInt64, Except.map]

theorem accept_variant (h : g.variant = none) (v : Variant) :
    g.accept .variant v.name = .ok { g with variant := some v } := by
  simp [accept, h, ofName?_name]

theorem acceptValues_number (h : level.takesNumbers = true) (n : Int64) :
    g.acceptValues level [Text.renderInt64 n] = .ok { g with numbers := g.numbers ++ [n] } := by
  rw [acceptValues, if_pos h, List.mapM_cons, readNumber_renderInt64]
  rfl

/-- Values of a command can be accepted one by one. -/
theorem acceptValues_append {texts : List String} {text : String}
    (h : g.acceptValues level texts = .ok g') (h' : g'.acceptValues level [text] = .ok g'') :
    g.acceptValues level (texts ++ [text]) = .ok g'' := by
  unfold acceptValues at h h' ⊢
  split at h
  next hnumbers =>
    rw [if_pos hnumbers] at h' ⊢
    obtain ⟨ns, hns, rfl⟩ := Text.map_eq_ok h
    obtain ⟨ms, hms, rfl⟩ := Text.map_eq_ok h'
    rw [List.mapM_append, hns]
    change Except.map _ (List.mapM readNumber [text] >>= fun ms => pure (ns ++ ms)) = _
    rw [hms, List.append_assoc]
    rfl
  next hnumbers =>
    rw [if_neg hnumbers] at h' ⊢
    cases h
    cases h'
    rw [List.append_assoc]

/-! ## What words come to -/

/-- Words for every command change the path and the form of the output, wherever they stand, and
nothing else. -/
theorem addAll_eq (g : Given) (ws : List Word) :
    g.addAll ws =
      { g.addAll (ws.filter (!·.isGlobal)) with
        config := (ws.filterMap Word.path?).getLast?.or g.config
        json := g.json || ws.any Word.isJson } := by
  -- The last path counts, so the induction is from the end.
  induction ws using List.reverseRecOn with
  | nil => simp
  | append_singleton ws w ih =>
    rw [addAll_append, ih, List.filter_append, addAll_append]
    cases w <;> simp [Word.addTo, Word.isGlobal, Word.path?, Word.isJson, List.getLast?_append]

theorem addAll_numbers (g : Given) (ns : List Int64) :
    g.addAll (ns.map .number) = { g with numbers := g.numbers ++ ns } := by
  induction ns generalizing g with
  | nil => simp
  | cons n ns ih => simp [ih, Word.addTo]

theorem addAll_operations (g : Given) (ops : List Operation) :
    g.addAll (ops.map .operation) =
      { g with operations := g.operations ++ ops.map Operation.render } := by
  induction ops generalizing g with
  | nil => simp
  | cons op ops ih => simp [ih, Word.addTo]

end Given

end Abacus.CommandLine
