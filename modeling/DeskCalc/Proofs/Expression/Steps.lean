import DeskCalc.Proofs.Expression.Evaluation

/-! # Successful steps

What the run does as long as nothing fails, said by relations: one rule for each thing that an `unwind`, a step or the
end can do. What holds of all successful runs is proved by cases on these rules.

* `Evaluation.Unwinds`, `Evaluation.Steps`, `Evaluation.Finishes`: the rules.
* `Evaluation.unwind_eq_ok_iff`, `Evaluation.step_eq_ok_iff`, `Evaluation.finish_eq_ok_iff`: nothing else succeeds, and
  all of this does.
-/

namespace DeskCalc.Evaluation
open DeskCalc.Number
set_option autoImplicit false

variable {α : Type} [Scalar α]

/-! ## Rules -/

inductive Unwinds (rank : Nat) : List Pending → List α → Bool → Stacks α → Prop where
  | bottom (vs : List α) : Unwinds rank [] vs false ⟨[], vs⟩
  | looser {p : Pending} (h : p.rank < rank) (ps : List Pending) (vs : List α) :
    Unwinds rank (p :: ps) vs false ⟨p :: ps, vs⟩
  | group (h : rank = 0) (ps : List Pending) (vs : List α) : Unwinds rank (.group :: ps) vs true ⟨ps, vs⟩
  /-- The operator is applied to the two topmost values, and it goes on. -/
  | operation {op : Operator} {a b r : α} {ps : List Pending} {vs : List α} {closed : Bool} {s : Stacks α}
    (h : rank ≤ op.rank) (hr : op.arithmetic a b = .ok r) (rest : Unwinds rank ps (r :: vs) closed s) :
    Unwinds rank (.operation op :: ps) (b :: a :: vs) closed s

inductive Steps (scope : Scope α) (s : Stacks α) : Token α → Stacks α → Prop where
  | number (x : α) : Steps scope s (.number x) ⟨s.pending, x :: s.values⟩
  | name {name : String} {x : α} (h : scope.find? name = some x) : Steps scope s (.name name) ⟨s.pending, x :: s.values⟩
  | opening : Steps scope s .opening ⟨.group :: s.pending, s.values⟩
  | closing {u : Stacks α} (h : Unwinds 0 s.pending s.values true u) : Steps scope s .closing u
  /-- An operator closes no group. -/
  | operator {op : Operator} {u : Stacks α} (h : Unwinds op.rank s.pending s.values false u) :
    Steps scope s (.operator op) ⟨.operation op :: u.pending, u.values⟩

inductive Finishes : List Pending → List α → α → Prop where
  | value (x : α) : Finishes [] [x] x
  | operation {op : Operator} {a b r x : α} {ps : List Pending} {vs : List α} (hr : op.arithmetic a b = .ok r)
    (rest : Finishes ps (r :: vs) x) : Finishes (.operation op :: ps) (b :: a :: vs) x

/-! ## Success -/

theorem reduce_eq_ok_iff {op : Operator} {vs us : List α} :
    (reduce op vs).outcome = .ok us ↔
      ∃ a b r rest, vs = b :: a :: rest ∧ op.arithmetic a b = .ok r ∧ us = r :: rest := by
  match vs with
  | [] => simp [reduce, Traced.fail]
  | [_] => simp [reduce, Traced.fail]
  | b :: a :: rest =>
    rw [reduce_two, Traced.outcome_bind_eq_ok]
    constructor
    · intro h
      obtain ⟨r, hr, h⟩ := h
      cases h
      exact ⟨a, b, r, rest, rfl, hr, rfl⟩
    · intro h
      obtain ⟨_, _, r, _, hvs, hr, rfl⟩ := h
      cases hvs
      exact ⟨r, hr, rfl⟩

theorem unwind_eq_ok_iff {rank : Nat} {ps : List Pending} {vs : List α} {closed : Bool} {s : Stacks α} :
    (unwind rank ps vs).outcome = .ok (closed, s) ↔ Unwinds rank ps vs closed s := by
  constructor
  · intro h
    induction ps generalizing vs with
    | nil =>
      cases h
      exact .bottom vs
    | cons p ps ih =>
      by_cases hp : p.rank < rank
      · rw [unwind_of_looser (looser_cons hp)] at h
        cases h
        exact .looser hp ps vs
      · cases p with
        | group =>
          have hrank : rank = 0 := by simpa using hp
          subst hrank
          cases h
          exact .group rfl ps vs
        | operation op =>
          have hop : rank ≤ op.rank := Nat.le_of_not_lt hp
          rw [unwind_operation_of_le hop, Traced.outcome_bind_eq_ok] at h
          obtain ⟨us, hus, h⟩ := h
          obtain ⟨a, b, r, rest, rfl, hr, rfl⟩ := reduce_eq_ok_iff.mp hus
          exact .operation hop hr (ih h)
  · intro h
    induction h with
    | bottom vs => rfl
    | looser hp ps vs =>
      rw [unwind_of_looser (looser_cons hp)]
      rfl
    | group hrank ps vs =>
      subst hrank
      rfl
    | operation hop hr _ ih =>
      rw [unwind_operation_of_le hop, Traced.outcome_bind_eq_ok]
      exact ⟨_, reduce_eq_ok_iff.mpr ⟨_, _, _, _, rfl, hr, rfl⟩, ih⟩

theorem Unwinds.not_closed {rank : Nat} {ps : List Pending} {vs : List α} {closed : Bool} {s : Stacks α}
    (h : Unwinds rank ps vs closed s) (hrank : 0 < rank) : closed = false := by
  induction h with
  | bottom => rfl
  | looser => rfl
  | group h => omega
  | operation _ _ _ ih => exact ih

theorem step_eq_ok_iff {scope : Scope α} {s s' : Stacks α} {t : Token α} :
    (step scope s t).outcome = .ok s' ↔ Steps scope s t s' := by
  constructor
  · intro h
    cases t with
    | number x =>
      cases h
      exact .number x
    | name name =>
      cases hx : scope.find? name with
      | none => simp [step, hx, Traced.fail] at h
      | some x =>
        simp only [step, hx] at h
        cases h
        exact .name hx
    | opening =>
      cases h
      exact .opening
    | closing =>
      rw [step_closing, Traced.outcome_bind_eq_ok] at h
      obtain ⟨⟨closed, u⟩, hu, h⟩ := h
      cases closed with
      | false => cases h
      | true =>
        cases h
        exact .closing (unwind_eq_ok_iff.mp hu)
    | operator op =>
      rw [step_operator, Traced.outcome_bind_eq_ok] at h
      obtain ⟨⟨closed, u⟩, hu, h⟩ := h
      rw [unwind_eq_ok_iff] at hu
      have hclosed : closed = false := hu.not_closed op.rank_pos
      subst hclosed
      cases h
      exact .operator hu
  · intro h
    cases h with
    | number x => rfl
    | name hx => simp only [step, hx, Traced.outcome_pure]
    | opening => rfl
    | closing hu =>
      rw [step_closing, Traced.outcome_bind_eq_ok]
      exact ⟨_, unwind_eq_ok_iff.mpr hu, rfl⟩
    | operator hu =>
      rw [step_operator, Traced.outcome_bind_eq_ok]
      exact ⟨_, unwind_eq_ok_iff.mpr hu, rfl⟩

theorem finish_eq_ok_iff {ps : List Pending} {vs : List α} {x : α} :
    (finish ps vs).outcome = .ok x ↔ Finishes ps vs x := by
  constructor
  · intro h
    induction ps generalizing vs with
    | nil =>
      match vs with
      | [] => cases h
      | [_] =>
        cases h
        exact .value x
      | _ :: _ :: _ => cases h
    | cons p ps ih =>
      cases p with
      | group => cases h
      | operation op =>
        obtain ⟨us, hus, h⟩ := Traced.outcome_bind_eq_ok.mp h
        obtain ⟨a, b, r, rest, rfl, hr, rfl⟩ := reduce_eq_ok_iff.mp hus
        exact .operation hr (ih h)
  · intro h
    induction h with
    | value x => rfl
    | operation hr _ ih =>
      exact Traced.outcome_bind_eq_ok.mpr ⟨_, reduce_eq_ok_iff.mpr ⟨_, _, _, _, rfl, hr, rfl⟩, ih⟩

end DeskCalc.Evaluation
