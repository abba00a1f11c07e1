import DeskCalc.Proofs.Expression.Basic

/-! # Evaluating expressions

The run over the tokens of an expression is held against the recursion over its tree. After the tokens of a tree the
stacks need not hold its value: operators that bind tightest may still be pending. They are applied by the next
`unwind`, so the lemma for trees speaks of the run with an `unwind` behind it.

* `Expression.run_unwind`: up to the next `unwind`, a tree has the effect of its value.
* `evaluate_tokens_eq`: on the tokens of a sum the evaluation gives its value and its reductions.
-/

namespace DeskCalc
open DeskCalc.Number
set_option autoImplicit false

variable {α : Type} [Scalar α]

/-! ## Unwinding -/

namespace Evaluation

theorem reduce_two (op : Operator) (a b : α) (vs : List α) :
    reduce op (b :: a :: vs) =
      (Traced.ofExcept (op.arithmetic a b) >>= fun r =>
        Traced.emit (.reduced a op b r) >>= fun _ => pure (r :: vs)) := by
  rw [← op.apply_eq_arithmetic]
  rfl

theorem unwind_operation_of_le {rank : Nat} {op : Operator} (h : rank ≤ op.rank) (ps : List Pending) (vs : List α) :
    unwind rank (.operation op :: ps) vs = reduce op vs >>= unwind rank ps := by
  rw [unwind.eq_def]
  exact if_neg (Nat.not_lt.mpr h)

/-- What is pending on top binds less tightly than the rank. -/
def Looser (rank : Nat) (ps : List Pending) : Prop := ∀ p ∈ ps.head?, p.rank < rank

theorem Looser.mono {r s : Nat} {ps : List Pending} (h : Looser r ps) (hrs : r ≤ s) : Looser s ps :=
  fun p hp => Nat.lt_of_lt_of_le (h p hp) hrs

theorem looser_cons {rank : Nat} {p : Pending} {ps : List Pending} (h : p.rank < rank) : Looser rank (p :: ps) := by
  intro q hq
  cases hq
  exact h

theorem unwind_of_looser {rank : Nat} {ps : List Pending} (h : Looser rank ps) (vs : List α) :
    unwind rank ps vs = pure (false, ⟨ps, vs⟩) := by
  cases ps with
  | nil => rfl
  | cons p ps =>
    rw [unwind.eq_def]
    exact if_pos (h p rfl)

theorem run_singleton (scope : Scope α) (s : Stacks α) (t : Token α) : run scope s [t] = step scope s t := by
  rw [run_cons]
  exact bind_pure _

theorem step_closing (scope : Scope α) (s : Stacks α) :
    step scope s .closing = unwind 0 s.pending s.values >>= fun u =>
      if u.1 then pure u.2 else Traced.fail .unbalanced := rfl

theorem step_operator (scope : Scope α) (s : Stacks α) (op : Operator) :
    step scope s (.operator op) = unwind op.rank s.pending s.values >>= fun u =>
      pure ⟨.operation op :: u.2.pending, u.2.values⟩ := rfl

/-- The end unwinds everything and asks for one value then. -/
theorem finish_eq_unwind (ps : List Pending) (vs : List α) :
    finish ps vs = unwind 0 ps vs >>= fun u =>
      if u.1 then Traced.fail .unbalanced else finish u.2.pending u.2.values := by
  induction ps generalizing vs with
  | nil => rfl
  | cons p ps ih =>
    cases p with
    | group => rfl
    | operation op =>
      have h : finish (.operation op :: ps) vs = reduce op vs >>= finish ps := rfl
      rw [h, unwind_operation_of_le (Nat.zero_le _), bind_assoc]
      congr 1
      funext vs'
      exact ih vs'

end Evaluation

/-! ## Trees -/

namespace Expression
open Evaluation

/-- The value of a tree with the reports on the way. -/
def traced (scope : Scope α) {tier : Tier} (e : Expression α tier) : Traced α α :=
  ⟨e.reductions scope, e.value scope⟩

theorem traced_chain (scope : Scope α) {tier : Tier} (left : Expression α tier) (op : Operator) (h : op.tier = tier)
    (right : Expression α tier.tighter) :
    (chain left op h right).traced scope = (left.traced scope >>= fun a => right.traced scope >>= fun b =>
      Traced.ofExcept (op.arithmetic a b) >>= fun r => Traced.emit (.reduced a op b r) >>= fun _ => pure r) := by
  unfold traced
  rw [value, reductions]
  cases hl : left.value scope with
  | error e =>
    rw [Traced.bind_of_error rfl]
    simp only [reduction, Except.isOk, Except.toBool, Bool.false_eq_true, if_false, List.append_nil]
    rfl
  | ok a =>
    rw [Traced.bind_of_ok rfl]
    cases hr : right.value scope with
    | error e =>
      rw [Traced.bind_of_error rfl]
      simp only [reduction, Except.isOk, Except.toBool, if_true, List.append_nil]
      rfl
    | ok b =>
      rw [Traced.bind_of_ok rfl]
      simp only [reduction, Except.isOk, Except.toBool, if_true, List.append_assoc]
      cases ha : op.arithmetic a b with
      | error e => exact congrArg (Traced.mk _) ha
      | ok r => exact congrArg (Traced.mk _) ha

/-- The tokens of a tree, up to an `unwind` to a rank that is not above its tier, have the effect of its value. -/
theorem run_unwind (scope : Scope α) {tier : Tier} (e : Expression α tier) (ps : List Pending) (vs : List α)
    (hps : Looser tier.rank ps) (rank : Nat) (hrank : rank ≤ tier.rank) :
    (run scope ⟨ps, vs⟩ e.tokens >>= fun s => unwind rank s.pending s.values) =
      e.traced scope >>= fun x => unwind rank ps (x :: vs) := by
  induction e generalizing ps vs rank with
  | number x => rfl
  | name s =>
    unfold traced
    rw [tokens, run_cons, value_name, reductions]
    cases h : scope.find? s with
    | none => simp only [step, h]; rfl
    | some x => simp only [step, h]; rfl
  | group inner ih =>
    have hrun : run scope ⟨ps, vs⟩ (group inner).tokens =
        (run scope ⟨.group :: ps, vs⟩ inner.tokens >>= fun s => unwind 0 s.pending s.values) >>= fun u =>
          if u.1 then pure u.2 else Traced.fail .unbalanced := by
      have hopen : step scope ⟨ps, vs⟩ (.opening : Token α) = pure ⟨.group :: ps, vs⟩ := rfl
      rw [tokens, List.cons_append, run_cons, hopen, Traced.pure_bind, run_append, bind_assoc]
      simp only [run_singleton, step_closing]
    have hclose : ∀ x : α, unwind 0 (.group :: ps) (x :: vs) = pure (true, ⟨ps, x :: vs⟩) := fun _ => rfl
    rw [hrun, ih (.group :: ps) vs (looser_cons (by decide)) 0 (Nat.zero_le _), bind_assoc, bind_assoc]
    simp only [hclose, Traced.pure_bind, if_true]
    rfl
  | single e ih =>
    exact ih ps vs (hps.mono (Tier.rank_le_tighter _)) rank (Nat.le_trans hrank (Tier.rank_le_tighter _))
  | chain left op h right ihl ihr =>
    subst h
    rw [Operator.rank_tier] at hps hrank
    have hleft : run scope ⟨ps, vs⟩ (chain left op rfl right).tokens =
        (run scope ⟨ps, vs⟩ left.tokens >>= fun s => unwind op.rank s.pending s.values) >>= fun u =>
          run scope ⟨.operation op :: u.2.pending, u.2.values⟩ right.tokens := by
      rw [tokens, run_append, bind_assoc]
      simp only [run_cons, step_operator, bind_assoc, Traced.pure_bind]
    rw [hleft, ihl ps vs (by rwa [Operator.rank_tier]) op.rank (Nat.le_of_eq (Operator.rank_tier op).symm),
      traced_chain]
    simp only [bind_assoc, unwind_of_looser hps, Traced.pure_bind]
    congr 1
    funext a
    -- Behind its right operand the operator is the first to be applied.
    rw [ihr (.operation op :: ps) (a :: vs) (looser_cons op.rank_lt_tighter) rank
      (Nat.le_trans hrank (Nat.le_of_lt op.rank_lt_tighter))]
    simp only [unwind_operation_of_le hrank, reduce_two, bind_assoc, Traced.pure_bind]

theorem evaluate_tokens (scope : Scope α) (e : Expression α .sum) : evaluate scope e.tokens = e.traced scope := by
  have hfinish : evaluate scope e.tokens =
      (run scope ⟨[], []⟩ e.tokens >>= fun s => unwind 0 s.pending s.values) >>= fun u =>
        if u.1 then Traced.fail .unbalanced else finish u.2.pending u.2.values := by
    rw [bind_assoc]
    simp only [← finish_eq_unwind]
    rfl
  have hnone : Looser 1 [] := fun p hp => nomatch hp
  have hone : ∀ x : α, unwind 0 [] [x] = pure (false, ⟨[], [x]⟩) := fun _ => rfl
  rw [hfinish, run_unwind scope e [] [] hnone 0 (Nat.zero_le _), bind_assoc]
  simp only [hone, Traced.pure_bind]
  exact bind_pure _

/-- The form of a tree is in order: only its names and its divisors can be at fault. -/
theorem kind_of_value_eq_error (scope : Scope α) {tier : Tier} (e : Expression α tier) {fault : Fault}
    (h : e.value scope = .error fault) : fault.kind ≠ .malformedExpression := by
  induction e with
  | number x => cases h
  | name s =>
    rw [value_name] at h
    cases hs : scope.find? s with
    | none =>
      rw [hs] at h
      cases h
      simp [Fault.kind]
    | some x =>
      rw [hs] at h
      cases h
  | group inner ih => exact ih h
  | single e ih => exact ih h
  | chain left op _ right ihl ihr =>
    rw [value] at h
    cases hl : left.value scope with
    | error f =>
      rw [hl] at h
      cases h
      exact ihl hl
    | ok a =>
      cases hr : right.value scope with
      | error f =>
        rw [hl, hr] at h
        cases h
        exact ihr hr
      | ok b =>
        rw [hl, hr] at h
        obtain ⟨_, _, rfl⟩ := Operator.apply_eq_error_iff.mp ((op.apply_eq_arithmetic a b).trans h)
        decide

end Expression

/-- On the tokens of a sum the evaluation has the value of the tree, or else its fault, which is never one of form, and
reports the operators that got both their operands, operands before operators. -/
theorem evaluate_tokens_eq (scope : Scope α) (e : Expression α .sum) :
    (evaluate scope e.tokens).outcome = e.value scope ∧ (evaluate scope e.tokens).events = e.reductions scope ∧
      ∀ fault : Fault, (evaluate scope e.tokens).outcome = .error fault → fault.kind ≠ .malformedExpression := by
  rw [Expression.evaluate_tokens]
  exact ⟨rfl, rfl, fun fault h => e.kind_of_value_eq_error scope h⟩

end DeskCalc
