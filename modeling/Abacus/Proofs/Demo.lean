import Abacus.Demo
import Abacus.Machine
import Abacus.Proofs.Text.Integers
import Abacus.Proofs.Text.Quotes

/-!
# What the demonstration prints

The report of a demonstration is printed on two lines, whatever its history holds: an entry with a
line break or a quote is written with escapes. The lines show the result and the history as they are
(`DemoReport.lines_lossless`), and a history that a step of a script shows is printed in the same
way.
-/

namespace Abacus

namespace Text

theorem shown_renderInt64 (n : Int64) : ∀ c ∈ (renderInt64 n).toList, Shown c :=
  (written_renderInt64 n).forall_mem (by decide) (by decide)
    fun _ hc => of_isDigit (p := Shown) (by decide) hc

end Text

namespace DemoReport

theorem shown_lines (r : DemoReport) :
    ∃ first second, r.lines = [first, second] ∧ (∀ c ∈ first.toList, Text.Shown c) ∧
      ∀ c ∈ second.toList, Text.Shown c := by
  refine ⟨_, _, rfl, ?_, Text.shown_quotedList r.history⟩
  rw [String.toList_append]
  exact List.forall_mem_append.2 ⟨by simp [Text.Shown], Text.shown_renderInt64 r.result⟩

theorem lines_eq_iff {r r' : DemoReport} :
    r.lines = r'.lines ↔ r.result = r'.result ∧ r.history = r'.history := by
  constructor
  · intro h
    obtain ⟨hfirst, hsecond⟩ := List.cons.inj h
    refine ⟨Text.renderInt64_injective ?_, Text.quotedList_injective (List.cons.inj hsecond).1⟩
    exact (String.append_right_inj _).1 hfirst
  · rintro ⟨hresult, hhistory⟩
    rw [lines, lines, hresult, hhistory]

/-- **The lines of a report are two, without any control in them, and they show the result and the
history exactly.** So does the text of a history that a step shows. -/
theorem lines_lossless :
    (∀ r : DemoReport, ∃ first second, r.lines = [first, second] ∧
      (∀ c ∈ first.toList, 0x20 ≤ c.toNat) ∧ ∀ c ∈ second.toList, 0x20 ≤ c.toNat) ∧
    (∀ r r' : DemoReport,
      r.lines = r'.lines ↔ r.result = r'.result ∧ r.history = r'.history) ∧
    ∀ entries entries' : List String,
      (Output.history entries).render = (Output.history entries').render ↔
        entries = entries' :=
  ⟨shown_lines, fun _ _ => lines_eq_iff,
    fun _ _ => ⟨Text.quotedList_injective, congrArg Text.quotedList⟩⟩

/-- One entry that looks like the border between two entries, and two entries. -/
example : Text.quotedList ["a\", \"b"] = "[\"a\\\", \\\"b\"]" ∧
    Text.quotedList ["a", "b"] = "[\"a\", \"b\"]" := by
  decide +kernel

end DemoReport

end Abacus
