import DeskCalc.Proofs.Console.Conversation
import DeskCalc.Proofs.Memory.Quoting
import DeskCalc.Proofs.Number.Characters

/-! # One line for one line

An answer is one line or none: the output has as many newlines as lines have been answered, and one more at the end.

* `Utf8.count_newline_bytes`: newlines among characters and among bytes.
* `Lines.oneLine_trimmed`: the trimmed text of a line is on one line.
* `Console.isAnswered`, `Console.answered`: the lines that are answered.
* `Console.count_newline_answer`, `Console.count_newline_spoken`: one line and many lines.
* `Console.AnswersOnOneLine`: what holds of a number type then. `Console.answers_on_one_line` for the two that there
  are.
-/

namespace DeskCalc
open DeskCalc.Number DeskCalc.Text
open Console (newline)
set_option autoImplicit false

/-! ## Newlines as bytes -/

namespace Text.Utf8

theorem le_ofNat {n : Nat} (hlow : 0x80 ≤ n) (hhigh : n < 0x100) : 0x80 ≤ (UInt8.ofNat n).toNat := by
  rw [UInt8.toNat_ofNat', Nat.mod_eq_of_lt hhigh]
  exact hlow

/-- A character of several bytes has no byte in common with those of one byte. -/
theorem le_of_mem_encode {c : Char} (h : ¬c.val.toNat ≤ 127) {b : UInt8} (hb : b ∈ String.utf8EncodeChar c) :
    0x80 ≤ b.toNat := by
  rw [String.utf8EncodeChar, if_neg h] at hb
  split at hb
  · simp only [List.mem_cons, List.not_mem_nil, or_false] at hb
    rcases hb with rfl | rfl <;> exact le_ofNat (by omega) (by omega)
  · split at hb
    · simp only [List.mem_cons, List.not_mem_nil, or_false] at hb
      rcases hb with rfl | rfl | rfl <;> exact le_ofNat (by omega) (by omega)
    · simp only [List.mem_cons, List.not_mem_nil, or_false] at hb
      rcases hb with rfl | rfl | rfl | rfl <;> exact le_ofNat (by omega) (by omega)

theorem count_newline_encode (c : Char) : (String.utf8EncodeChar c).count newline = [c].count '\n' := by
  by_cases hone : c.val.toNat ≤ 127
  · have hbyte : UInt8.ofNat c.val.toNat = newline ↔ c = '\n' := by
      constructor
      · intro h
        have hn : c.val.toNat % 256 = 10 := UInt8.toNat_ofNat'.symm.trans (congrArg UInt8.toNat h)
        exact Char.toNat_inj.mp (show c.val.toNat = 10 by omega)
      · rintro rfl
        rfl
    rw [String.utf8EncodeChar, if_pos hone]
    simp only [List.count_singleton, beq_iff_eq, hbyte]
  · have hbytes : newline ∉ String.utf8EncodeChar c := fun hmem => absurd (le_of_mem_encode hone hmem) (by decide)
    have hchar : '\n' ∉ [c] := by
      rw [List.mem_singleton]
      rintro rfl
      exact hone (by decide)
    rw [List.count_eq_zero.mpr hbytes, List.count_eq_zero.mpr hchar]

theorem count_newline_bytes (s : String) : (bytes s).count newline = s.toList.count '\n' := by
  conv => lhs; rw [← String.ofList_toList (s := s)]
  rw [bytes_ofList]
  induction s.toList with
  | nil => rfl
  | cons c cs ih =>
    rw [List.flatMap_cons, List.count_append, ih, count_newline_encode, ← List.count_append, List.singleton_append]

theorem oneLine_iff {s : String} : OneLine s ↔ newline ∉ bytes s := by
  rw [OneLine, ← List.count_eq_zero, ← List.count_eq_zero, count_newline_bytes]

end Text.Utf8

/-! ## Lines of the input -/

/-- No newline, but for one at the end. -/
def OneEnd (line : List UInt8) : Prop := newline ∉ line ∨ ∃ body, newline ∉ body ∧ line = body ++ [newline]

theorem Lines.oneEnd {input : List UInt8} (lines : Lines input) : ∀ line ∈ lines.all, OneEnd line := by
  have hcomplete : ∀ line ∈ lines.complete, OneEnd line := by
    intro line hline
    obtain ⟨body, hbody, rfl⟩ := List.mem_map.mp hline
    exact .inr ⟨body, lines.bodies_open body hbody, rfl⟩
  rw [all]
  split
  · exact hcomplete
  · rw [List.forall_mem_append, List.forall_mem_singleton]
    exact ⟨hcomplete, .inl lines.tail_open⟩

/-- The newline at the end is a character of its own, and is trimmed. -/
theorem OneEnd.oneLine_trimmed {line : List UInt8} (hline : OneEnd line) {text : String}
    (h : Utf8.text? line = some text) : OneLine (trimmed text) := by
  obtain rfl := Utf8.text?_eq_some_iff.mp h
  rw [OneLine, trimmed, String.toList_ofList]
  intro hmem
  have hend : '\n' ∈ text.toList := mem_of_mem_trim hmem
  rcases hline with hnone | ⟨body, hbody, hline⟩
  · exact Utf8.oneLine_iff.mpr hnone hend
  · obtain ⟨front, rest, htext, hfront⟩ := List.eq_append_cons_of_mem hend
    have hfree : newline ∉ Utf8.bytes (String.ofList front) := by
      rwa [← Utf8.oneLine_iff, OneLine, String.toList_ofList]
    have hbytes : Utf8.bytes text = Utf8.bytes (String.ofList front) ++ newline :: Utf8.bytes (String.ofList rest) := by
      rw [← String.ofList_toList (s := text), htext, Utf8.bytes_ofList, Utf8.bytes_ofList, Utf8.bytes_ofList,
        List.flatMap_append, List.flatMap_cons]
      rfl
    have hrest : rest = [] := by
      have hnil := (Lines.eq_of_append_newline hfree hbody (hbytes.symm.trans hline)).2
      exact String.ofList_injective (Utf8.bytes_injective (hnil.trans rfl))
    subst hrest
    have hblank : allBlank ['\n'] = true := rfl
    rw [htext, trim_append_blanks front hblank] at hmem
    exact hfront (mem_of_mem_trim hmem)

namespace Console

variable {α : Type} [Scalar α]

/-! ## Answered lines -/

/-- The line is no text, or has a value, or fails. -/
def isAnswered (m : Memory α) (line : List UInt8) : Bool :=
  match Utf8.text? line with
  | none => true
  | some text =>
    match (m.enter (trimmed text)).outcome with
    | .ok (value, _) => value.isSome
    | .error _ => true

/-- How many of the lines are answered, each by the memory that those before it have left. -/
def answered (m : Memory α) : List (List UInt8) → Nat
  | [] => 0
  | line :: lines => (isAnswered m line).toNat + answered (heard m [line]) lines

theorem count_newline_line {s : String} (h : OneLine s) : (Utf8.bytes (s ++ "\n")).count newline = 1 := by
  rw [Utf8.bytes_append, List.count_append, Utf8.count_newline_bytes, List.count_eq_zero.mpr h]
  rfl

variable {kind : α → Prop}

theorem count_newline_answer (hplain : PlainText α) (hread : ReadsLiterals α kind) {m : Memory α}
    (hm : m.WellFormed kind) {line : List UInt8} (hline : OneEnd line) :
    (Utf8.bytes (answer m line)).count newline = (isAnswered m line).toNat := by
  cases htext : Utf8.text? line with
  | none =>
    simp only [answer, isAnswered, htext]
    decide +kernel
  | some text =>
    cases houtcome : (m.enter (trimmed text)).outcome with
    | error fault =>
      simp only [answer, isAnswered, htext, houtcome]
      exact count_newline_line (Memory.oneLine_message hread hm (hline.oneLine_trimmed htext) houtcome)
    | ok result =>
      obtain ⟨value, m'⟩ := result
      cases value with
      | none =>
        simp only [answer, isAnswered, htext, houtcome]
        rfl
      | some x =>
        simp only [answer, isAnswered, htext, houtcome]
        refine count_newline_line fun hend => ?_
        cases numberText_iff.mp (hplain x) '\n' hend

theorem count_newline_spoken (hplain : PlainText α) (hread : ReadsLiterals α kind) {m : Memory α}
    (hm : m.WellFormed kind) {lines : List (List UInt8)} (hlines : ∀ line ∈ lines, OneEnd line) :
    (spoken m lines).count newline = answered m lines := by
  induction lines generalizing m with
  | nil => rfl
  | cons line lines ih =>
    rw [List.forall_mem_cons] at hlines
    have hprompt : (Utf8.bytes "> ").count newline = 0 := by decide +kernel
    have hheard : (heard m [line]).WellFormed kind :=
      Memory.afterLines_induction (fun _ line h => h.after_enter hread line) hm _
    rw [spoken, answered, List.count_append, List.count_append, hprompt, Nat.zero_add,
      count_newline_answer hplain hread hm hlines.1, ih hheard hlines.2]

/-! ## Conversations -/

/-- The answers of a calculator for these numbers: one line for each line that has one, and never more. -/
structure AnswersOnOneLine (α : Type) [Scalar α] : Prop where
  newlines : ∀ (input : List UInt8) (lines : Lines input),
    (run (∅ : Memory α) ⟨input, false⟩ none).output.count newline = 1 + answered (∅ : Memory α) lines.all
  /-- Whatever has been entered before. -/
  messages : ∀ (history : List String) (input : List UInt8) (lines : Lines input), ∀ line ∈ lines.all,
    ∀ text fault, Utf8.text? line = some text →
      (((∅ : Memory α).afterLines history).enter (trimmed text)).outcome = .error fault → OneLine fault.message

theorem answersOnOneLine (hplain : PlainText α) (hread : ReadsLiterals α kind) : AnswersOnOneLine α where
  newlines input lines := by
    obtain ⟨houtput, _, _⟩ := run_finished lines (∅ : Memory α)
    have hspoken := count_newline_spoken hplain hread (Memory.wellFormed_empty kind) lines.oneEnd
    have hlast : (Utf8.bytes "> " ++ Utf8.bytes "\n").count newline = 1 := by decide +kernel
    rw [houtput, List.count_append, hspoken, hlast, Nat.add_comm]
  messages history input lines line hline text fault htext hfault :=
    Memory.oneLine_message hread (.of_lines hread history) ((lines.oneEnd line hline).oneLine_trimmed htext) hfault

/-- A conversation puts out one newline for each answered line, and one at the end; and no message has one, whatever
has been entered before. -/
theorem answers_on_one_line : AnswersOnOneLine Float ∧ AnswersOnOneLine Float32 :=
  ⟨answersOnOneLine plainText_double readsLiterals_double, answersOnOneLine plainText_single readsLiterals_single⟩

/-- An assignment has no answer. -/
example : (run (∅ : Memory Float) ⟨Utf8.bytes "x = 1\nx\n1 +\n", false⟩ none).output.count newline = 3 := by
  decide +kernel

end Console

end DeskCalc
