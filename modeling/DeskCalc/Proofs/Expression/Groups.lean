import DeskCalc.Proofs.Expression.Steps
import DeskCalc.Token.Lexer
import Mathlib.Tactic.Common

/-! # Groups

A group acts as its value, whatever stands around it. Its tokens run above the stacks that the tokens before it have
left, and nothing in the group reaches below the parenthesis that opened it.

* `Stacks.inside`: stacks above an open group and what is below it.
* `Evaluation.Unwinds.inside`, `Evaluation.Steps.inside`, `Evaluation.run_inside`: what succeeds by itself does the same
  inside a group.
* `Evaluation.Finishes.unwinds`: the closing parenthesis does there what the end of a row does.
* `evaluate_group`: a group in a row of tokens can be exchanged for its value.
-/

namespace DeskCalc
open DeskCalc.Number
set_option autoImplicit false

variable {α : Type}

/-! ## Inside a group -/

/-- The stacks `s` have grown since a group was opened above the stacks `below`. -/
def Stacks.inside (s below : Stacks α) : Stacks α :=
  ⟨s.pending ++ .group :: below.pending, s.values ++ below.values⟩

variable [Scalar α]

namespace Evaluation

/-- Only an `unwind` to the rank of groups that meets no group of its own would go on below. -/
theorem Unwinds.inside {rank : Nat} {ps : List Pending} {vs : List α} {closed : Bool} {s : Stacks α}
    (h : Unwinds rank ps vs closed s) (hstop : closed = true ∨ 0 < rank) (below : Stacks α) :
    Unwinds rank (ps ++ .group :: below.pending) (vs ++ below.values) closed (s.inside below) := by
  induction h with
  | bottom vs =>
    have hrank : 0 < rank := by simpa using hstop
    exact .looser hrank _ _
  | looser hp ps vs => exact .looser hp _ _
  | group hrank ps vs => exact .group hrank _ _
  | operation hop hr _ ih => exact .operation hop hr (ih hstop)

/-- Where a row ends with a value, a closing parenthesis leaves it above what is below the group. -/
theorem Finishes.unwinds {ps : List Pending} {vs : List α} {x : α} (h : Finishes ps vs x) (below : Stacks α) :
    Unwinds 0 (ps ++ .group :: below.pending) (vs ++ below.values) true ⟨below.pending, x :: below.values⟩ := by
  induction h with
  | value x => exact .group rfl _ _
  | operation hr _ ih => exact .operation (Nat.zero_le _) hr ih

theorem Steps.inside {scope : Scope α} {s s' : Stacks α} {t : Token α} (h : Steps scope s t s') (below : Stacks α) :
    Steps scope (s.inside below) t (s'.inside below) := by
  cases h with
  | number x => exact .number x
  | name hx => exact .name hx
  | opening => exact .opening
  | closing hu => exact .closing (hu.inside (.inl rfl) below)
  | operator hu => exact .operator (s := s.inside below) (hu.inside (.inr (Operator.rank_pos _)) below)

theorem run_inside {scope : Scope α} {s s' : Stacks α} {ts : List (Token α)} (h : (run scope s ts).outcome = .ok s')
    (below : Stacks α) : (run scope (s.inside below) ts).outcome = .ok (s'.inside below) := by
  induction ts generalizing s with
  | nil =>
    cases h
    rfl
  | cons t ts ih =>
    rw [run_cons] at h ⊢
    obtain ⟨u, hu, h⟩ := Traced.outcome_bind_eq_ok.mp h
    exact Traced.outcome_bind_eq_ok.mpr ⟨_, step_eq_ok_iff.mpr ((step_eq_ok_iff.mp hu).inside below), ih h⟩

/-! ## The whole group -/

/-- From opening to closing a group puts its value on top. -/
theorem run_group {scope : Scope α} {ts : List (Token α)} {x : α} (h : (evaluate scope ts).outcome = .ok x)
    (s : Stacks α) : (run scope s ([.opening] ++ ts ++ [.closing])).outcome = .ok ⟨s.pending, x :: s.values⟩ := by
  obtain ⟨u, hrun, hfinish⟩ := Traced.outcome_bind_eq_ok.mp h
  have hopen : (run scope s [.opening]).outcome = .ok (Stacks.empty.inside s) := rfl
  have hinner : (run scope (Stacks.empty.inside s) ts).outcome = .ok (u.inside s) := run_inside hrun s
  have hclose : (run scope (u.inside s) [.closing]).outcome = .ok ⟨s.pending, x :: s.values⟩ := by
    rw [run_singleton, step_eq_ok_iff]
    exact .closing ((finish_eq_ok_iff.mp hfinish).unwinds s)
  rw [run_append, run_append, Traced.outcome_bind_eq_ok]
  exact ⟨_, Traced.outcome_bind_eq_ok.mpr ⟨_, hopen, hinner⟩, hclose⟩

/-- Rows that take all stacks to the same ones can be exchanged. -/
theorem evaluate_exchange {scope : Scope α} {ts us : List (Token α)}
    (h : ∀ s, (run scope s ts).outcome = (run scope s us).outcome) (before behind : List (Token α)) :
    (evaluate scope (before ++ ts ++ behind)).outcome = (evaluate scope (before ++ us ++ behind)).outcome := by
  simp only [evaluate, run_append, Traced.outcome_bind, h]

end Evaluation

/-- A row that has a value can be put between parentheses in the place of that value. Neither the row nor what stands
around it need be an expression. -/
theorem evaluate_group (scope : Scope α) (ts : List (Token α)) (x : α) (h : (evaluate scope ts).outcome = .ok x)
    (before behind : List (Token α)) :
    (evaluate scope (before ++ [.opening] ++ ts ++ [.closing] ++ behind)).outcome =
      (evaluate scope (before ++ [.number x] ++ behind)).outcome := by
  have hgroup : ∀ s, (Evaluation.run scope s ([.opening] ++ ts ++ [.closing])).outcome =
      (Evaluation.run scope s [.number x]).outcome := Evaluation.run_group h
  simpa using Evaluation.evaluate_exchange hgroup before behind

/-- The group holds `1 2 +`, which is no expression but has a value, and a parenthesis is missing behind it. -/
theorem evaluate_group_postfix :
    (evaluate .empty (Token.ofText "1 2 +" : List (Token Float))).outcome = .ok 3.0 ∧
      (evaluate .empty (Token.ofText "8 / (1 - " ++ [.opening] ++ Token.ofText "1 2 +" ++ [.closing] ++
        Token.ofText " * 2" : List (Token Float))).outcome =
      (evaluate .empty (Token.ofText "8 / (1 - " ++ [.number 3.0] ++ Token.ofText " * 2" :
        List (Token Float))).outcome := by
  have h : (evaluate .empty (Token.ofText "1 2 +" : List (Token Float))).outcome = .ok 3.0 := by decide +kernel
  exact ⟨h, evaluate_group .empty _ 3.0 h _ _⟩

end DeskCalc
