import DeskCalc.Proofs.Console.Lines
import DeskCalc.Proofs.Memory.Entering
import DeskCalc.Proofs.Text.Decoding

/-! # The conversation

With channels that do not fail, a conversation enters the trimmed text of each line into the memory, one after the
other, and skips the lines that are no text.

* `Console.answer`, `Console.heard`, `Console.spoken`: the answer to a line, the memory after some lines, and what is
  put out about them.
* `Console.respond_text`, `Console.respond_memory`: one line.
* `Console.spoken_append`, `Console.heard_append`: lines and more lines.
* `Console.answerLines_reliable`, `Console.run_reliable`: the whole conversation.
-/

namespace DeskCalc.Console
open DeskCalc.Number DeskCalc.Text
set_option autoImplicit false

variable {α : Type} [Scalar α]

/-! ## Lines and answers -/

def answer (m : Memory α) (line : List UInt8) : String :=
  match Utf8.text? line with
  | none => "line is not valid UTF-8\n"
  | some text =>
    match (m.enter (trimmed text)).outcome with
    | .ok (some x, _) => Scalar.text x ++ "\n"
    | .ok (none, _) => ""
    | .error fault => fault.message ++ "\n"

/-- The memory after some lines. Those that are no text do not count. -/
def heard (m : Memory α) (lines : List (List UInt8)) : Memory α :=
  m.afterLines ((lines.filterMap Utf8.text?).map trimmed)

/-- A prompt and an answer for each line. -/
def spoken (m : Memory α) : List (List UInt8) → List UInt8
  | [] => []
  | line :: lines => Utf8.bytes "> " ++ Utf8.bytes (answer m line) ++ spoken (heard m [line]) lines

theorem heard_append (m : Memory α) (lines more : List (List UInt8)) :
    heard m (lines ++ more) = heard (heard m lines) more := by
  rw [heard, List.filterMap_append, List.map_append, Memory.afterLines_append]
  rfl

theorem heard_cons (m : Memory α) (line : List UInt8) (lines : List (List UInt8)) :
    heard m (line :: lines) = heard (heard m [line]) lines :=
  heard_append m [line] lines

theorem spoken_append (m : Memory α) (lines more : List (List UInt8)) :
    spoken m (lines ++ more) = spoken m lines ++ spoken (heard m lines) more := by
  induction lines generalizing m with
  | nil => rfl
  | cons line lines ih =>
    rw [List.cons_append, spoken, spoken, ih, heard_cons m line lines]
    simp only [List.append_assoc]

/-! ## One line -/

theorem respond_of_text (m : Memory α) {line : List UInt8} {text : String} (h : Utf8.text? line = some text) :
    let x := m.enter (trimmed text)
    respond m line = ⟨answerText x.outcome, m.after x, x.events⟩ := by
  rw [← String.ofList_toList (s := text), ← Utf8.decode_eq_ok_iff_text?] at h
  rw [respond, h]
  rfl

theorem respond_of_no_text (m : Memory α) {line : List UInt8} (h : Utf8.text? line = none) :
    ∃ invalid, respond m line = ⟨"line is not valid UTF-8\n", m, [.skipping invalid]⟩ := by
  obtain ⟨invalid, hdecode⟩ := Utf8.decode_eq_error_iff.mpr h
  exact ⟨invalid, by rw [respond, hdecode]⟩

theorem respond_text (m : Memory α) (line : List UInt8) : (respond m line).text = answer m line := by
  cases h : Utf8.text? line with
  | none =>
    obtain ⟨invalid, hrespond⟩ := respond_of_no_text m h
    rw [hrespond, answer, h]
  | some text =>
    rw [respond_of_text m h]
    simp only [answer, h]
    cases (m.enter (trimmed text)).outcome with
    | error fault => simp only [answerText]
    | ok result =>
      obtain ⟨value, m'⟩ := result
      cases value <;> simp only [answerText]

theorem respond_memory (m : Memory α) (line : List UInt8) : (respond m line).memory = heard m [line] := by
  cases h : Utf8.text? line with
  | none =>
    obtain ⟨invalid, hrespond⟩ := respond_of_no_text m h
    rw [hrespond, heard, List.filterMap_cons_none h]
    rfl
  | some text =>
    rw [respond_of_text m h, heard, List.filterMap_cons_some h, List.filterMap_nil, List.map_cons, List.map_nil,
      Memory.afterLines_cons, Memory.afterLines_nil]

/-! ## All lines -/

theorem answerLines_reliable (fails : Bool) (m : Memory α) (lines : List (List UInt8)) :
    let t := answerLines fails m none lines
    Utf8.bytes "> " ++ t.output = spoken m lines ++ (Utf8.bytes "> " ++ if fails then [] else Utf8.bytes "\n") ∧
      t.ending = (if fails then .readFailed else .finished) ∧ t.memory = heard m lines := by
  induction lines generalizing m with
  | nil => cases fails <;> exact ⟨rfl, rfl, rfl⟩
  | cons line lines ih =>
    obtain ⟨houtput, hending, hmemory⟩ := ih (heard m [line])
    rw [answerLines]
    simp only [reply, say, respond_text, respond_memory]
    refine ⟨?_, hending, by rw [hmemory, ← heard_cons]⟩
    rw [spoken, List.append_assoc, List.append_assoc, ← houtput]
    rfl

theorem run_unlimited (source : Source) (lines : Lines source.bytes) (m : Memory α) :
    let heeded := lines.delivered source.fails
    let t := run m source none
    t.output = spoken m heeded ++ (Utf8.bytes "> " ++ if source.fails then [] else Utf8.bytes "\n") ∧
      t.ending = (if source.fails then .readFailed else .finished) ∧ t.memory = heard m heeded := by
  rw [run_eq_answerLines source lines]
  exact answerLines_reliable source.fails m (lines.delivered source.fails)

theorem run_finished {input : List UInt8} (lines : Lines input) (m : Memory α) :
    let t := run m ⟨input, false⟩ none
    t.output = spoken m lines.all ++ (Utf8.bytes "> " ++ Utf8.bytes "\n") ∧ t.ending = .finished ∧
      t.memory = heard m lines.all :=
  run_unlimited ⟨input, false⟩ lines m

/-- An input that ends in a newline can go on: what is said about it stays, up to the last prompt. -/
theorem run_reliable (m : Memory α) {input : List UInt8} (lines : Lines input) :
    let t := run m ⟨input, false⟩ none
    t.ending = .finished ∧ t.output = spoken m lines.all ++ (Utf8.bytes "> " ++ Utf8.bytes "\n") ∧
      t.memory = heard m lines.all ∧
      (input.getLast? = some newline → ∀ more : List UInt8,
        let next := run t.memory ⟨more, false⟩ none
        let whole := run m ⟨input ++ more, false⟩ none
        ∃ said, t.output = said ++ (Utf8.bytes "> " ++ Utf8.bytes "\n") ∧ whole.output = said ++ next.output ∧
          whole.memory = next.memory ∧ whole.ending = next.ending) := by
  obtain ⟨houtput, hending, hmemory⟩ := run_finished lines m
  refine ⟨hending, houtput, hmemory, fun hlast more => ?_⟩
  obtain ⟨rest⟩ : Nonempty (Lines more) := inferInstance
  have htail := lines.tail_eq_nil hlast
  obtain ⟨houtput_next, hending_next, hmemory_next⟩ := run_finished rest (heard m lines.all)
  obtain ⟨houtput_whole, hending_whole, hmemory_whole⟩ := run_finished (lines.append htail rest) m
  rw [lines.all_append htail rest] at houtput_whole hmemory_whole
  refine ⟨spoken m lines.all, houtput, ?_, ?_, ?_⟩
  · rw [houtput_whole, hmemory, houtput_next, spoken_append, List.append_assoc]
  · rw [hmemory_whole, hmemory, hmemory_next, heard_append]
  · rw [hending_whole, hmemory, hending_next]

example : (run (∅ : Memory Float) ⟨Utf8.bytes "x = 3\nx * 2\n", false⟩ none).output =
    Utf8.bytes "> > 6.0\n> \n" := by
  decide +kernel

end DeskCalc.Console
