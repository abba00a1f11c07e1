import DeskCalc.Proofs.Expression.Grammar
import DeskCalc.Proofs.Expression.Steps
import DeskCalc.Token.Lexer
import Mathlib.Tactic.Common

/-! # Accepted rows

The evaluation counts values and groups, but does not look whether operands and operators alternate. So every accepted
row balances, and it is derivable if it alternates as well; but `1 2 +` is accepted too.

* `Evaluation.groups`: the open groups, of which an `unwind` that succeeds takes one if it stops at it.
* `Evaluation.depth?_of_run`: the run opens and closes groups as the tokens do.
* `derivable_iff_alternates_of_accepted`: an accepted row is derivable if and only if it alternates.
* `accepted_not_derivable`: an operator behind both operands is accepted.
-/

namespace DeskCalc
open DeskCalc.Number
set_option autoImplicit false

variable {α : Type} [Scalar α]

namespace Evaluation

/-! ## Groups -/

def groups (ps : List Pending) : Nat := ps.count .group

@[simp] theorem groups_nil : groups [] = 0 := rfl

@[simp] theorem groups_group (ps : List Pending) : groups (.group :: ps) = groups ps + 1 := by
  simp [groups]

@[simp] theorem groups_operation (op : Operator) (ps : List Pending) : groups (.operation op :: ps) = groups ps := by
  simp [groups]

theorem Unwinds.groups_eq {rank : Nat} {ps : List Pending} {vs : List α} {closed : Bool} {s : Stacks α}
    (h : Unwinds rank ps vs closed s) : groups ps = groups s.pending + closed.toNat := by
  induction h with
  | bottom => rfl
  | looser => rfl
  | group => simp
  | operation _ _ _ ih => simpa using ih

theorem depth?_of_step {scope : Scope α} {s s' : Stacks α} {t : Token α} (h : (step scope s t).outcome = .ok s')
    (rest : List (Token α)) : depth? (groups s.pending) (t :: rest) = depth? (groups s'.pending) rest := by
  cases step_eq_ok_iff.mp h with
  | number x => rfl
  | name => rfl
  | opening => simp [depth?]
  | closing hu => simp [depth?, hu.groups_eq]
  | operator hu => simp [depth?, hu.groups_eq]

theorem depth?_of_run {scope : Scope α} {s s' : Stacks α} {ts : List (Token α)}
    (h : (run scope s ts).outcome = .ok s') : depth? (groups s.pending) ts = some (groups s'.pending) := by
  induction ts generalizing s with
  | nil =>
    cases h
    rfl
  | cons t ts ih =>
    rw [run_cons] at h
    obtain ⟨s₁, hstep, h⟩ := Traced.outcome_bind_eq_ok.mp h
    rw [depth?_of_step hstep, ih h]

theorem groups_of_finish {ps : List Pending} {vs : List α} {x : α} (h : (finish ps vs).outcome = .ok x) :
    groups ps = 0 := by
  rw [finish_eq_ok_iff] at h
  induction h with
  | value => rfl
  | operation _ _ ih => simpa using ih

end Evaluation

/-! ## Rows -/

theorem balanced_of_accepted {scope : Scope α} {ts : List (Token α)} {x : α}
    (h : (evaluate scope ts).outcome = .ok x) : Balanced ts := by
  obtain ⟨s, hrun, hfinish⟩ := Traced.outcome_bind_eq_ok.mp h
  have hdepth := Evaluation.depth?_of_run hrun
  rwa [Evaluation.groups_of_finish hfinish] at hdepth

/-- The parentheses of an accepted row balance, and it is an expression unless operands and operators do not take
turns in it. -/
theorem derivable_iff_alternates_of_accepted (scope : Scope α) (ts : List (Token α)) (x : α)
    (h : (evaluate scope ts).outcome = .ok x) : Balanced ts ∧ (Derivable ts ↔ Alternates ts) := by
  have hbal := balanced_of_accepted h
  refine ⟨hbal, ?_⟩
  rw [derivable_iff]
  exact and_iff_left hbal

/-- A product of a group and a number is accepted; here operands and operators take turns. -/
theorem accepted_product_of_group :
    (evaluate .empty (Token.ofText "(1 + 2) * 4" : List (Token Float))).outcome = .ok 12.0 ∧
      Balanced (Token.ofText "(1 + 2) * 4" : List (Token Float)) ∧
      (Derivable (Token.ofText "(1 + 2) * 4" : List (Token Float)) ↔
        Alternates (Token.ofText "(1 + 2) * 4" : List (Token Float))) :=
  ⟨by decide +kernel, derivable_iff_alternates_of_accepted .empty _ 12.0 (by decide +kernel)⟩

/-- An operator may stand behind both its operands. -/
theorem accepted_not_derivable :
    (evaluate .empty (Token.ofText "1 2 +" : List (Token Float))).outcome = .ok 3.0 ∧
      ¬Derivable (Token.ofText "1 2 +" : List (Token Float)) := by
  decide +kernel

end DeskCalc
