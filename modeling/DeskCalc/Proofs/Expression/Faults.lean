import DeskCalc.Proofs.Expression.Acceptance

/-! # Failing steps

Where a run can fail, and with which faults. An operator that is applied can lack an operand or divide by zero; beyond
that, a token fails only if it is a name without a number or a parenthesis that closes nothing.

* `Fault.OfOperator`, `Fault.OfToken`, `Fault.OfRow`: the faults of an operator, of a name or an operator, and of a row.
* `Evaluation.reduce_eq_error`, `Evaluation.unwind_eq_error`, `Evaluation.step_eq_error`, `Evaluation.run_eq_error`:
  what each move fails with.
* `evaluate_eq_error`: what an evaluation fails with. A name that it tells stands in the row.
-/

namespace DeskCalc
open DeskCalc.Number
set_option autoImplicit false

/-! ## Kinds of faults -/

namespace Fault

def OfOperator : Fault → Prop
  | divisionByZero | missingOperand _ => True
  | _ => False

/-- A fault of one operand or operator, whatever the rest of the row is. -/
def OfToken : Fault → Prop
  | undefinedName _ | divisionByZero | missingOperand _ => True
  | _ => False

theorem OfOperator.ofToken {e : Fault} (h : e.OfOperator) : e.OfToken := by
  cases e with
  | divisionByZero | missingOperand op => trivial
  | _ => cases h

theorem OfOperator.kind_ne {e : Fault} (h : e.OfOperator) : e.kind ≠ .undefinedName := by
  cases e with
  | divisionByZero | missingOperand op => simp [kind]
  | _ => cases h

def OfRow {α : Type} (ts : List (Token α)) : Fault → Prop
  | undefinedName name => .name name ∈ ts
  | divisionByZero | missingOperand _ | unbalanced | emptyExpression | looseOperands _ => True
  | _ => False

theorem OfOperator.ofRow {α : Type} {e : Fault} (h : e.OfOperator) (ts : List (Token α)) : e.OfRow ts := by
  cases e with
  | divisionByZero | missingOperand op => trivial
  | _ => cases h

theorem OfRow.cons {α : Type} {ts : List (Token α)} {e : Fault} (h : e.OfRow ts) (t : Token α) : e.OfRow (t :: ts) := by
  cases e with
  | undefinedName name => exact .tail _ h
  | divisionByZero | missingOperand | unbalanced | emptyExpression | looseOperands => trivial
  | _ => cases h

end Fault

/-! ## Moves -/

namespace Evaluation
open Traced

variable {α : Type} [Scalar α]

theorem reduce_eq_error {op : Operator} {vs : List α} {e : Fault} (h : (reduce op vs).outcome = .error e) :
    e.OfOperator := by
  match vs with
  | [] | [_] =>
    cases h
    trivial
  | b :: a :: vs =>
    rw [reduce_two, outcome_bind_eq_error] at h
    rcases h with (h : op.arithmetic a b = .error e) | ⟨r, _, h⟩
    · rw [← op.apply_eq_arithmetic, Operator.apply_eq_error_iff] at h
      rw [h.2.2]
      trivial
    · cases h

theorem unwind_eq_error {rank : Nat} {ps : List Pending} {vs : List α} {e : Fault}
    (h : (unwind rank ps vs).outcome = .error e) : e.OfOperator := by
  induction ps generalizing vs with
  | nil => cases h
  | cons p ps ih =>
    by_cases hp : p.rank < rank
    · rw [unwind_of_looser (looser_cons hp)] at h
      cases h
    · cases p with
      | group =>
        have hrank : rank = 0 := by simpa using hp
        subst hrank
        cases h
      | operation op =>
        rw [unwind_operation_of_le (Nat.le_of_not_lt hp)] at h
        rcases outcome_bind_eq_error.mp h with h | ⟨us, _, h⟩
        · exact reduce_eq_error h
        · exact ih h

theorem Unwinds.pending_eq_nil {ps : List Pending} {vs : List α} {s : Stacks α} (h : Unwinds 0 ps vs false s) :
    s.pending = [] := by
  generalize hclosed : false = closed at h
  induction h with
  | bottom => rfl
  | looser h => exact absurd h (Nat.not_lt_zero _)
  | group => cases hclosed
  | operation _ _ _ ih => exact ih hclosed

theorem step_eq_error {scope : Scope α} {s : Stacks α} {t : Token α} {e : Fault}
    (h : (step scope s t).outcome = .error e) :
    e.OfOperator ∨ (∃ name, t = .name name ∧ scope.find? name = none ∧ e = .undefinedName name) ∨
      (t = .closing ∧ groups s.pending = 0 ∧ e = .unbalanced) := by
  cases t with
  | number x => cases h
  | name name =>
    cases hx : scope.find? name with
    | some x =>
      simp only [step, hx] at h
      cases h
    | none =>
      simp only [step, hx] at h
      cases h
      exact .inr (.inl ⟨name, rfl, hx, rfl⟩)
  | opening => cases h
  | closing =>
    rw [step_closing] at h
    rcases outcome_bind_eq_error.mp h with h | ⟨⟨closed, u⟩, hu, h⟩
    · exact .inl (unwind_eq_error h)
    · cases closed with
      | true => cases h
      | false =>
        cases h
        have hunwinds := unwind_eq_ok_iff.mp hu
        refine .inr (.inr ⟨rfl, ?_, rfl⟩)
        rw [hunwinds.groups_eq, hunwinds.pending_eq_nil]
        rfl
  | operator op =>
    rw [step_operator] at h
    rcases outcome_bind_eq_error.mp h with h | ⟨u, _, h⟩
    · exact .inl (unwind_eq_error h)
    · cases h

/-- A parenthesis that closes nothing is one too many wherever the row ends. -/
theorem run_eq_error {scope : Scope α} {s : Stacks α} {ts : List (Token α)} {e : Fault}
    (h : (run scope s ts).outcome = .error e) :
    e.OfToken ∨ (depth? (groups s.pending) ts = none ∧ e = .unbalanced) := by
  induction ts generalizing s with
  | nil => cases h
  | cons t ts ih =>
    rw [run_cons] at h
    rcases outcome_bind_eq_error.mp h with h | ⟨u, hu, h⟩
    · obtain he | ⟨name, _, _, rfl⟩ | ⟨rfl, hgroups, rfl⟩ := step_eq_error h
      · exact .inl he.ofToken
      · exact .inl trivial
      · exact .inr ⟨by simp [depth?, hgroups], rfl⟩
    · rw [depth?_of_step hu]
      exact ih h

/-! ## Rows -/

theorem ofRow_of_run {scope : Scope α} {s : Stacks α} {ts : List (Token α)} {e : Fault}
    (h : (run scope s ts).outcome = .error e) : e.OfRow ts := by
  induction ts generalizing s with
  | nil => cases h
  | cons t ts ih =>
    rw [run_cons] at h
    rcases outcome_bind_eq_error.mp h with h | ⟨u, _, h⟩
    · obtain he | ⟨name, rfl, _, rfl⟩ | ⟨_, _, rfl⟩ := step_eq_error h
      · exact he.ofRow _
      · exact .head _
      · trivial
    · exact (ih h).cons t

theorem ofRow_of_finish {ps : List Pending} {vs : List α} {e : Fault} (h : (finish ps vs).outcome = .error e)
    (ts : List (Token α)) : e.OfRow ts := by
  induction ps generalizing vs with
  | nil =>
    match vs with
    | [] | _ :: _ :: _ =>
      cases h
      trivial
    | [_] => cases h
  | cons p ps ih =>
    cases p with
    | group =>
      cases h
      trivial
    | operation op =>
      rw [finish] at h
      rcases outcome_bind_eq_error.mp h with h | ⟨us, _, h⟩
      · exact (reduce_eq_error h).ofRow ts
      · exact ih h

end Evaluation

theorem evaluate_eq_error {α : Type} [Scalar α] {scope : Scope α} {ts : List (Token α)} {e : Fault}
    (h : (evaluate scope ts).outcome = .error e) : e.OfRow ts := by
  rcases Traced.outcome_bind_eq_error.mp h with h | ⟨s, _, h⟩
  · exact Evaluation.ofRow_of_run h
  · exact Evaluation.ofRow_of_finish h ts

end DeskCalc
