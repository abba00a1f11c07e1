import DeskCalc.Proofs.Command.Trimming
import DeskCalc.Proofs.Memory.Faults

/-! # Entering untrimmed lines

A line can be entered with blanks at its ends, but not with a line end behind an assignment or a definition.

* `Memory.enter_trimmed_iff`: the lines that are answered as their trimmed texts are, in every memory.
-/

namespace DeskCalc
open DeskCalc.Number DeskCalc.Text
set_option autoImplicit false

variable {α β : Type}

/-! ## Reports -/

theorem mapError_report_ne {x y : Except Fault β} {fault : Fault} (hy : y = .error fault)
    (h : ∀ other, x = .error other → other.report ≠ fault.report) :
    x.mapError Fault.report ≠ y.mapError Fault.report := by
  subst hy
  cases x with
  | ok b => exact fun hreport => nomatch hreport
  | error other =>
    intro hreport
    injection hreport with hreport
    exact h other rfl hreport

namespace Memory
open Command (Overruns)

variable [Scalar α]

/-! ## Lines -/

theorem enter_trimmed (m : Memory α) {line : String} (h : ¬Overruns line.toList) :
    m.enter (trimmed line) = m.enter line := by
  rw [enter, enter, Command.read_trimmed h]

theorem enter_of_overruns (m : Memory α) {line : String} (h : Overruns line.toList) :
    ∃ fault, (m.enter line).outcome = .error fault ∧
      ∀ other, (m.enter (trimmed line)).outcome = .error other → other.report ≠ fault.report := by
  obtain ⟨fault, hread, hothers⟩ := Command.read_of_overruns (α := α) h
  have hentered : (m.enter line).outcome = .error fault := by
    rw [enter_of_unreadable m hread]
    rfl
  refine ⟨fault, hentered, fun other hother hreport => ?_⟩
  -- what is not told when the line is read is of another kind
  have hkind : other.kind = .malformedLine :=
    (congrArg Prod.fst hreport).trans (Command.refusal_of_read hread).kind_eq
  exact hothers other ((entryFault_of_enter hother).read_eq hkind) hreport

/-- A line is read as its trimmed text, and has the same effect in a memory, except for the lines with a line end behind
a right side. In no memory do these have the same effect. -/
theorem enter_trimmed_iff (line : String) :
    ((Command.read (trimmed line) : Except Fault (Option (Command α))).mapError Fault.report =
        (Command.read line).mapError Fault.report ↔ ¬Overruns line.toList) ∧
    ∀ m : Memory α, (m.enter (trimmed line)).outcome.mapError Fault.report =
      (m.enter line).outcome.mapError Fault.report ↔ ¬Overruns line.toList := by
  refine ⟨⟨fun h hoverruns => ?_, fun h => ?_⟩, fun m => ⟨fun h hoverruns => ?_, fun h => ?_⟩⟩
  · obtain ⟨fault, hread, hothers⟩ := Command.read_of_overruns (α := α) hoverruns
    exact mapError_report_ne hread hothers h
  · rw [Command.read_trimmed h]
  · obtain ⟨fault, hentered, hothers⟩ := enter_of_overruns m hoverruns
    exact mapError_report_ne hentered hothers h
  · rw [enter_trimmed m h]

/-- With the line end behind it, the assignment has an equals sign without a place. -/
theorem enter_assignment_line_end :
    ((∅ : Memory Float).enter "x = 1\n").outcome = .error (.strayEquals "x = 1") ∧
      trimmed "x = 1\n" = "x = 1" ∧
      ((∅ : Memory Float).enter "x = 1").outcome = .ok (none, (∅ : Memory Float).assign "x" 1.0) ∧
      (Command.read "x = 1\n" : Except Fault (Option (Command Float))) = .error (.strayEquals "x = 1") ∧
      (Command.read "x = 1" : Except Fault (Option (Command Float))) = .ok (some (.assign "x" [.number 1.0])) := by
  decide +kernel

end Memory

end DeskCalc
