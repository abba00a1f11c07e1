import DeskCalc.Proofs.Expression.Evaluation
import DeskCalc.Token.Lexer
import Mathlib.Tactic.Common

/-! # Rows of the same shape

Which operators are applied, and whether a row is malformed, depends on its shape: on where its operands, operators and
parentheses stand, not on the numbers and names. Two runs over rows of one shape stay in step until one of them stops
at its data, that is at a name that is not defined or at a division by zero.

* `Shape`, `Token.shape`: a token without its number or name.
* `Traced.applied`: the operators that a computation has applied, in order.
* `Traced.InStep`: two computations in step, up to a fault of the data. `Traced.InStep.bind`: parts in step make
  wholes in step.
* `Evaluation.step_inStep`, `Evaluation.run_inStep`, `Evaluation.finish_inStep`: a token, the tokens of a row, the end.
* `evaluate_shape`: what the evaluation of a row says about all rows of the same shape.
-/

namespace DeskCalc
open DeskCalc.Number
set_option autoImplicit false

variable {α β γ δ γ' δ' : Type}

/-! ## Shapes -/

inductive Shape where
  | operand
  | operator (op : Operator)
  | opening
  | closing
  deriving DecidableEq, Repr

def Token.shape : Token α → Shape
  | number _ | name _ => .operand
  | operator op => .operator op
  | opening => .opening
  | closing => .closing

/-- A fault of the numbers and names, not of the form. -/
def Fault.OfData (e : Fault) : Prop := e.kind = .undefinedName ∨ e.kind = .divisionByZero

instance : DecidablePred Fault.OfData := fun _ => inferInstanceAs (Decidable (_ ∨ _))

/-! ## Applied operators -/

def Event.applied? : Event α → Option Operator
  | reduced _ op _ _ => some op
  | _ => none

namespace Traced

/-- An operator that fails is not applied. -/
def applied (x : Traced α γ) : List Operator := x.events.filterMap Event.applied?

theorem applied_bind_of_ok {x : Traced α γ} {c : γ} (h : x.outcome = .ok c) (f : γ → Traced α γ') :
    (x >>= f).applied = x.applied ++ (f c).applied := by
  rw [bind_of_ok h]
  exact List.filterMap_append

theorem applied_bind_of_error {x : Traced α γ} {e : Fault} (h : x.outcome = .error e) (f : γ → Traced α γ') :
    (x >>= f).applied = x.applied := by
  rw [bind_of_error h]
  rfl

theorem applied_prefix_bind (x : Traced α γ) (f : γ → Traced α γ') : x.applied <+: (x >>= f).applied := by
  cases h : x.outcome with
  | ok c =>
    rw [applied_bind_of_ok h]
    exact List.prefix_append _ _
  | error e => exact ⟨[], by rw [applied_bind_of_error h, List.append_nil]⟩

/-! ## Computations in step -/

/-- Both have come to results that are related, or to the same fault, and have applied the same operators; or one of
them has stopped at its data, and the other one has applied the same operators up to there. -/
inductive InStep (R : γ → δ → Prop) (x : Traced α γ) (y : Traced β δ) : Prop where
  | results (c : γ) (d : δ) (hx : x.outcome = .ok c) (hy : y.outcome = .ok d) (h : R c d)
    (happlied : x.applied = y.applied)
  | fault (e : Fault) (hx : x.outcome = .error e) (hy : y.outcome = .error e) (happlied : x.applied = y.applied)
  | left (e : Fault) (hx : x.outcome = .error e) (he : e.OfData) (happlied : x.applied <+: y.applied)
  | right (e : Fault) (hy : y.outcome = .error e) (he : e.OfData) (happlied : y.applied <+: x.applied)

namespace InStep

theorem pure {R : γ → δ → Prop} {c : γ} {d : δ} (h : R c d) :
    InStep R (Pure.pure c : Traced α γ) (Pure.pure d : Traced β δ) :=
  .results c d rfl rfl h rfl

theorem fail (R : γ → δ → Prop) (e : Fault) : InStep R (Traced.fail e : Traced α γ) (Traced.fail e : Traced β δ) :=
  .fault e rfl rfl rfl

theorem bind {R : γ → δ → Prop} {S : γ' → δ' → Prop} {x : Traced α γ} {y : Traced β δ} {f : γ → Traced α γ'}
    {g : δ → Traced β δ'} (hxy : InStep R x y) (hfg : ∀ c d, R c d → InStep S (f c) (g d)) :
    InStep S (x >>= f) (y >>= g) := by
  cases hxy with
  | results c d hx hy h happlied =>
    have hleft : (x >>= f).outcome = (f c).outcome := by rw [bind_of_ok hx]
    have hright : (y >>= g).outcome = (g d).outcome := by rw [bind_of_ok hy]
    have hf : (x >>= f).applied = x.applied ++ (f c).applied := applied_bind_of_ok hx f
    have hg : (y >>= g).applied = x.applied ++ (g d).applied := by rw [applied_bind_of_ok hy, happlied]
    cases hfg c d h with
    | results c' d' hc hd h' happ => exact .results c' d' (hleft.trans hc) (hright.trans hd) h' (by rw [hf, hg, happ])
    | fault e hc hd happ => exact .fault e (hleft.trans hc) (hright.trans hd) (by rw [hf, hg, happ])
    | left e hc he happ =>
      apply InStep.left e (hleft.trans hc) he
      rw [hf, hg]
      exact (List.prefix_append_right_inj _).mpr happ
    | right e hd he happ =>
      apply InStep.right e (hright.trans hd) he
      rw [hf, hg]
      exact (List.prefix_append_right_inj _).mpr happ
  | fault e hx hy happlied =>
    apply InStep.fault e
    · rw [bind_of_error hx]
    · rw [bind_of_error hy]
    · rw [applied_bind_of_error hx, applied_bind_of_error hy, happlied]
  | left e hx he happlied =>
    have hleft : (x >>= f).outcome = .error e := by rw [bind_of_error hx]
    apply InStep.left e hleft he
    rw [applied_bind_of_error hx]
    exact happlied.trans (applied_prefix_bind y g)
  | right e hy he happlied =>
    have hright : (y >>= g).outcome = .error e := by rw [bind_of_error hy]
    apply InStep.right e hright he
    rw [applied_bind_of_error hy]
    exact happlied.trans (applied_prefix_bind x f)

theorem of_ok {R : γ → δ → Prop} {x : Traced α γ} {y : Traced β δ} (hxy : InStep R x y) {c : γ}
    (h : x.outcome = .ok c) : (∃ d, y.outcome = .ok d ∧ R c d) ∨ ∃ e, y.outcome = .error e ∧ e.OfData := by
  cases hxy with
  | results c' d hx hy hR =>
    cases hx.symm.trans h
    exact .inl ⟨d, hy, hR⟩
  | fault e hx => cases hx.symm.trans h
  | left e hx => cases hx.symm.trans h
  | right e hy he => exact .inr ⟨e, hy, he⟩

theorem of_error {R : γ → δ → Prop} {x : Traced α γ} {y : Traced β δ} (hxy : InStep R x y) {e : Fault}
    (h : x.outcome = .error e) (he : ¬e.OfData) : y.outcome = .error e ∨ ∃ f, y.outcome = .error f ∧ f.OfData := by
  cases hxy with
  | results c d hx => cases hx.symm.trans h
  | fault f hx hy =>
    cases hx.symm.trans h
    exact .inl hy
  | left f hx hf =>
    cases hx.symm.trans h
    exact absurd hf he
  | right f hy hf => exact .inr ⟨f, hy, hf⟩

theorem applied_prefix {R : γ → δ → Prop} {x : Traced α γ} {y : Traced β δ} (hxy : InStep R x y) :
    x.applied <+: y.applied ∨ y.applied <+: x.applied := by
  cases hxy with
  | results _ _ _ _ _ h => exact .inl (h ▸ List.prefix_rfl)
  | fault _ _ _ h => exact .inl (h ▸ List.prefix_rfl)
  | left _ _ _ h => exact .inl h
  | right _ _ _ h => exact .inr h

end InStep

end Traced

/-! ## Runs in step -/

variable [Scalar α] [Scalar β]

theorem Operator.ofData_of_arithmetic {op : Operator} {a b : α} {e : Fault} (h : op.arithmetic a b = .error e) :
    e.OfData := by
  rw [← apply_eq_arithmetic, apply_eq_error_iff] at h
  obtain ⟨_, _, rfl⟩ := h
  decide

/-- The same is pending, above as many values. -/
def Stacks.Alike (s : Stacks α) (t : Stacks β) : Prop := s.pending = t.pending ∧ s.values.length = t.values.length

namespace Evaluation
open Traced

theorem reduce_inStep (op : Operator) {vs : List α} {ws : List β} (h : vs.length = ws.length) :
    InStep (fun (us : List α) (xs : List β) => us.length = xs.length) (reduce op vs) (reduce op ws) := by
  match vs, ws with
  | [], [] => exact .fail _ _
  | [_], [_] => exact .fail _ _
  | b :: a :: vs, d :: c :: ws =>
    rw [reduce_two, reduce_two]
    cases hx : op.arithmetic a b with
    | error e => exact .left e rfl (Operator.ofData_of_arithmetic hx) List.nil_prefix
    | ok r =>
      cases hy : op.arithmetic c d with
      | error e => exact .right e rfl (Operator.ofData_of_arithmetic hy) List.nil_prefix
      | ok q => exact .results _ _ rfl rfl (by simpa using h) rfl

theorem unwind_inStep (rank : Nat) (ps : List Pending) {vs : List α} {ws : List β} (h : vs.length = ws.length) :
    InStep (fun (u : Bool × Stacks α) (v : Bool × Stacks β) => u.1 = v.1 ∧ u.2.Alike v.2) (unwind rank ps vs)
      (unwind rank ps ws) := by
  induction ps generalizing vs ws with
  | nil => exact .pure ⟨rfl, rfl, h⟩
  | cons p ps ih =>
    by_cases hp : p.rank < rank
    · rw [unwind_of_looser (looser_cons hp), unwind_of_looser (looser_cons hp)]
      exact .pure ⟨rfl, rfl, h⟩
    · cases p with
      | group =>
        have hrank : rank = 0 := by simpa using hp
        subst hrank
        exact .pure ⟨rfl, rfl, h⟩
      | operation op =>
        have hop : rank ≤ op.rank := Nat.le_of_not_lt hp
        rw [unwind_operation_of_le hop, unwind_operation_of_le hop]
        apply (reduce_inStep op h).bind
        intro us xs hlength
        exact ih hlength

/-- An operand puts a value on top, unless it is a name that is not defined. -/
theorem step_operand (scope : Scope α) (s : Stacks α) {t : Token α} (h : t.shape = .operand) :
    (∃ x, step scope s t = pure ⟨s.pending, x :: s.values⟩) ∨
      ∃ name, step scope s t = Traced.fail (.undefinedName name) := by
  cases t with
  | number x => exact .inl ⟨x, rfl⟩
  | name name =>
    cases hx : scope.find? name with
    | some x => exact .inl ⟨x, by simp only [step, hx]⟩
    | none => exact .inr ⟨name, by simp only [step, hx]⟩
  | operator | opening | closing => cases h

theorem step_inStep (scope : Scope α) (scope' : Scope β) {s : Stacks α} {s' : Stacks β} (hs : s.Alike s')
    {t : Token α} {t' : Token β} (ht : t.shape = t'.shape) :
    InStep Stacks.Alike (step scope s t) (step scope' s' t') := by
  have operands (h : t.shape = .operand) : InStep Stacks.Alike (step scope s t) (step scope' s' t') := by
    obtain ⟨x, hx⟩ | ⟨name, hx⟩ := step_operand scope s h
    · obtain ⟨y, hy⟩ | ⟨name, hy⟩ := step_operand scope' s' (ht.symm.trans h)
      · rw [hx, hy]
        exact .pure ⟨hs.1, by simp [hs.2]⟩
      · rw [hx, hy]
        exact .right _ rfl (.inl rfl) List.nil_prefix
    · rw [hx]
      exact .left _ rfl (.inl rfl) List.nil_prefix
  cases t with
  | number x => exact operands rfl
  | name name => exact operands rfl
  | opening =>
    cases t' with
    | opening => exact .pure ⟨congrArg (_ :: ·) hs.1, hs.2⟩
    | number | name | operator | closing => cases ht
  | closing =>
    cases t' with
    | closing =>
      rw [step_closing, step_closing, hs.1]
      apply (unwind_inStep 0 s'.pending hs.2).bind
      rintro ⟨closed, u⟩ ⟨closed', u'⟩ ⟨hclosed, hu⟩
      dsimp only at hclosed hu ⊢
      subst hclosed
      cases closed with
      | true => exact .pure hu
      | false => exact .fail _ _
    | number | name | operator | opening => cases ht
  | operator op =>
    cases t' with
    | operator op' =>
      cases ht
      rw [step_operator, step_operator, hs.1]
      apply (unwind_inStep op.rank s'.pending hs.2).bind
      intro u u' hu
      exact .pure ⟨congrArg (_ :: ·) hu.2.1, hu.2.2⟩
    | number | name | opening | closing => cases ht

theorem run_inStep (scope : Scope α) (scope' : Scope β) {s : Stacks α} {s' : Stacks β} (hs : s.Alike s')
    {ts : List (Token α)} {us : List (Token β)} (h : ts.map Token.shape = us.map Token.shape) :
    InStep Stacks.Alike (run scope s ts) (run scope' s' us) := by
  induction ts generalizing s s' us with
  | nil =>
    have hus : us = [] := by simpa using h.symm
    subst hus
    exact .pure hs
  | cons t ts ih =>
    cases us with
    | nil => cases h
    | cons u us =>
      rw [List.map_cons, List.map_cons] at h
      injection h with ht hts
      rw [run_cons, run_cons]
      apply (step_inStep scope scope' hs ht).bind
      intro r r' hr
      exact ih hr hts

/-- What is malformed at the end is said with the number of values only. -/
theorem finish_inStep (ps : List Pending) {vs : List α} {ws : List β} (h : vs.length = ws.length) :
    InStep (fun _ _ => True) (finish ps vs) (finish ps ws) := by
  induction ps generalizing vs ws with
  | nil =>
    match vs, ws with
    | [], [] => exact .fail _ _
    | [_], [_] => exact .pure trivial
    | a :: b :: vs, c :: d :: ws =>
      have hleft : finish [] (a :: b :: vs) = Traced.fail (.looseOperands (a :: b :: vs).length) := rfl
      have hright : finish [] (c :: d :: ws) = Traced.fail (.looseOperands (c :: d :: ws).length) := rfl
      rw [hleft, hright, h]
      exact .fail _ _
  | cons p ps ih =>
    cases p with
    | group => exact .fail _ _
    | operation op =>
      apply (reduce_inStep op h).bind
      intro us xs hlength
      exact ih hlength

end Evaluation

theorem evaluate_inStep (scope : Scope α) (scope' : Scope β) {ts : List (Token α)} {us : List (Token β)}
    (h : ts.map Token.shape = us.map Token.shape) :
    Traced.InStep (fun _ _ => True) (evaluate scope ts) (evaluate scope' us) := by
  have hempty : (Stacks.empty : Stacks α).Alike (Stacks.empty : Stacks β) := ⟨rfl, rfl⟩
  apply (Evaluation.run_inStep scope scope' hempty h).bind
  intro s s' hs
  rw [hs.1]
  exact Evaluation.finish_inStep s'.pending hs.2

/-! ## Rows -/

/-- A row of the shape of an accepted one can only fail at its data, and a row of the shape of a malformed one fails at
its data or is malformed in the same way. As far as both are computed, the same operators are applied. -/
theorem evaluate_shape (scope : Scope α) (scope' : Scope β) (ts : List (Token α)) (us : List (Token β))
    (h : ts.map Token.shape = us.map Token.shape) :
    (∀ x, (evaluate scope ts).outcome = .ok x →
      (∃ y, (evaluate scope' us).outcome = .ok y) ∨ ∃ e, (evaluate scope' us).outcome = .error e ∧ e.OfData) ∧
    (∀ e, (evaluate scope ts).outcome = .error e → e.kind = .malformedExpression →
      (evaluate scope' us).outcome = .error e ∨ ∃ e', (evaluate scope' us).outcome = .error e' ∧ e'.OfData) ∧
    ((evaluate scope ts).applied <+: (evaluate scope' us).applied ∨
      (evaluate scope' us).applied <+: (evaluate scope ts).applied) := by
  have hstep := evaluate_inStep scope scope' h
  refine ⟨fun x hx => ?_, fun e he hkind => ?_, hstep.applied_prefix⟩
  · obtain ⟨y, hy, _⟩ | hdata := hstep.of_ok hx
    · exact .inl ⟨y, hy⟩
    · exact .inr hdata
  · apply hstep.of_error he
    intro hdata
    unfold Fault.OfData at hdata
    rw [hkind] at hdata
    simp at hdata

/-- The second row has the shape of the first, which is accepted, and divides by zero. -/
theorem evaluate_shape_quotient :
    (evaluate (.ofShared (.ofList [("a", 5.0)])) (Token.ofText "(1 2 +) / (a - 4)" : List (Token Float))).outcome =
        .ok 3.0 ∧
      ((∃ y, (evaluate .empty (Token.ofText "(3 .5 +) / (4 - 4)" : List (Token Float32))).outcome = .ok y) ∨
        ∃ e, (evaluate .empty (Token.ofText "(3 .5 +) / (4 - 4)" : List (Token Float32))).outcome = .error e ∧
          e.OfData) := by
  have h : (evaluate (.ofShared (.ofList [("a", 5.0)]))
      (Token.ofText "(1 2 +) / (a - 4)" : List (Token Float))).outcome = .ok 3.0 := by decide +kernel
  exact ⟨h, (evaluate_shape _ .empty _ _ (by decide +kernel)).1 3.0 h⟩

end DeskCalc
