import DeskCalc.Proofs.Expression.Faults
import DeskCalc.Proofs.Expression.Tally

/-! # The accounts of a row

Whatever the row is, the run keeps its accounts: every operand read is on the stack of values or has gone into a
result, and every operator read is pending or has been applied. At the end this decides which rows have a value, which
leave operands over, and which hold nothing at all.

* `Traced.results`: what the operators that a computation has applied have given, in order.
* `Evaluation.Accounted`: the accounts between two tokens. `Accounted.unwind`, `Accounted.step`, `Accounted.run`: every
  move keeps them.
* `Evaluation.evaluate_cases`: how an evaluation can end.
* `evaluate_accounts`: what the end says about the row.
-/

namespace DeskCalc
open DeskCalc.Number
set_option autoImplicit false

variable {α γ δ : Type}

/-! ## Results -/

def Event.result? : Event α → Option α
  | reduced _ _ _ r => some r
  | _ => none

namespace Traced

/-- What the operators that were applied have given. -/
def results (x : Traced α γ) : List α := x.events.filterMap Event.result?

@[simp] theorem results_pure (c : γ) : (pure c : Traced α γ).results = [] := rfl

theorem results_bind_of_ok {x : Traced α γ} {c : γ} (h : x.outcome = .ok c) (f : γ → Traced α δ) :
    (x >>= f).results = x.results ++ (f c).results := by
  rw [bind_of_ok h]
  exact List.filterMap_append

end Traced

namespace Evaluation
open Traced

/-! ## Keeping accounts -/

def operations (ps : List Pending) : Nat := ps.countP fun p => p != .group

@[simp] theorem operations_nil : operations [] = 0 := rfl

@[simp] theorem operations_group (ps : List Pending) : operations (.group :: ps) = operations ps := by
  simp [operations]

@[simp] theorem operations_operation (op : Operator) (ps : List Pending) :
    operations (.operation op :: ps) = operations ps + 1 := by
  simp [operations]

/-- So many operands and operators have been read, and these results have been found. -/
structure Accounted (operands operators : Nat) (results : List α) (s : Stacks α) : Prop where
  values : operands = s.values.length + results.length
  pending : operators = operations s.pending + results.length
  /-- A result stays until the next one is made of it. -/
  latest : ∀ r ∈ results.getLast?, r ∈ s.values

namespace Accounted

variable {n m : Nat} {rs : List α}

theorem empty : Accounted 0 0 [] (Stacks.empty : Stacks α) := ⟨rfl, rfl, fun _ h => nomatch h⟩

theorem operand {s : Stacks α} (h : Accounted n m rs s) (x : α) :
    Accounted (n + 1) m rs ⟨s.pending, x :: s.values⟩ where
  values := by
    have hvalues := h.values
    simp only [List.length_cons]
    omega
  pending := h.pending
  latest r hr := .tail _ (h.latest r hr)

theorem operator {s : Stacks α} (h : Accounted n m rs s) (op : Operator) :
    Accounted n (m + 1) rs ⟨.operation op :: s.pending, s.values⟩ where
  values := h.values
  pending := by
    have hpending := h.pending
    simp only [operations_operation]
    omega
  latest := h.latest

/-- Open groups do not count. -/
theorem of_operations_eq {ps qs : List Pending} {vs : List α} (h : Accounted n m rs ⟨ps, vs⟩)
    (heq : operations qs = operations ps) : Accounted n m rs ⟨qs, vs⟩ where
  values := h.values
  pending := heq ▸ h.pending
  latest := h.latest

/-- Two values and an operator make one result. -/
theorem apply {op : Operator} {ps : List Pending} {a b : α} {vs : List α}
    (h : Accounted n m rs ⟨.operation op :: ps, b :: a :: vs⟩) (r : α) : Accounted n m (rs ++ [r]) ⟨ps, r :: vs⟩ where
  values := by
    have hvalues := h.values
    simp only [List.length_append, List.length_cons, List.length_nil] at hvalues ⊢
    omega
  pending := by
    have hpending := h.pending
    simp only [operations_operation, List.length_append, List.length_cons, List.length_nil] at hpending ⊢
    omega
  latest := by simp

end Accounted

variable [Scalar α]

theorem results_reduce {op : Operator} {a b r : α} (h : op.arithmetic a b = .ok r) (vs : List α) :
    (reduce op (b :: a :: vs)).results = [r] := by
  rw [reduce_two, h]
  rfl

namespace Accounted

variable {n m : Nat} {rs : List α}

theorem unwind {rank : Nat} {ps : List Pending} {vs : List α} (h : Accounted n m rs ⟨ps, vs⟩) {closed : Bool}
    {s : Stacks α} (hu : (unwind rank ps vs).outcome = .ok (closed, s)) :
    Accounted n m (rs ++ (Evaluation.unwind rank ps vs).results) s := by
  induction ps generalizing rs vs with
  | nil =>
    cases hu
    simpa [Evaluation.unwind] using h
  | cons p ps ih =>
    by_cases hp : p.rank < rank
    · rw [unwind_of_looser (looser_cons hp)] at hu ⊢
      cases hu
      simpa using h
    · cases p with
      | group =>
        have hrank : rank = 0 := by simpa using hp
        subst hrank
        cases hu
        have hclose : Accounted n m rs ⟨ps, vs⟩ := h.of_operations_eq (operations_group ps).symm
        simpa [Evaluation.unwind] using hclose
      | operation op =>
        rw [unwind_operation_of_le (Nat.le_of_not_lt hp)] at hu ⊢
        obtain ⟨us, hus, hrest⟩ := Traced.outcome_bind_eq_ok.mp hu
        obtain ⟨a, b, r, vs, rfl, hr, rfl⟩ := reduce_eq_ok_iff.mp hus
        rw [results_bind_of_ok hus, results_reduce hr, ← List.append_assoc]
        exact ih (h.apply r) hrest

theorem step {scope : Scope α} {s s' : Stacks α} {t : Token α} (h : Accounted n m rs s)
    (hs : (step scope s t).outcome = .ok s') :
    Accounted (n + tally .operand [t]) (m + tally .operator [t]) (rs ++ (Evaluation.step scope s t).results) s' := by
  cases t with
  | number x =>
    cases hs
    simpa [Evaluation.step, tally_cons, Token.role] using h.operand x
  | name name =>
    cases step_eq_ok_iff.mp hs with
    | @name _ x hx => simpa [Evaluation.step, hx, tally_cons, Token.role] using h.operand x
  | opening =>
    cases hs
    have hopen := h.of_operations_eq (operations_group s.pending)
    simpa [Evaluation.step, tally_cons, Token.role] using hopen
  | closing =>
    rw [step_closing] at hs ⊢
    obtain ⟨⟨closed, u⟩, hu, hrest⟩ := Traced.outcome_bind_eq_ok.mp hs
    cases closed with
    | false => cases hrest
    | true =>
      cases hrest
      rw [results_bind_of_ok hu]
      simpa [tally_cons, Token.role] using h.unwind hu
  | operator op =>
    rw [step_operator] at hs ⊢
    obtain ⟨⟨closed, u⟩, hu, hrest⟩ := Traced.outcome_bind_eq_ok.mp hs
    cases hrest
    rw [results_bind_of_ok hu]
    simpa [tally_cons, Token.role] using (h.unwind hu).operator op

theorem run {scope : Scope α} {s s' : Stacks α} {ts : List (Token α)} (h : Accounted n m rs s)
    (hr : (run scope s ts).outcome = .ok s') :
    Accounted (n + tally .operand ts) (m + tally .operator ts) (rs ++ (Evaluation.run scope s ts).results) s' := by
  induction ts generalizing n m rs s with
  | nil =>
    cases hr
    simpa using h
  | cons t ts ih =>
    rw [run_cons] at hr ⊢
    obtain ⟨u, hu, hrest⟩ := Traced.outcome_bind_eq_ok.mp hr
    have hcount : ∀ role, tally role (t :: ts) = tally role [t] + tally role ts :=
      fun role => tally_append role [t] ts
    rw [results_bind_of_ok hu, ← List.append_assoc, hcount, hcount, ← Nat.add_assoc, ← Nat.add_assoc]
    exact ih (h.step hu) hrest

end Accounted

/-! ## Ends -/

/-- The row is read, and everything above the innermost open group is applied. -/
def settle (scope : Scope α) (ts : List (Token α)) : Traced α (Bool × Stacks α) :=
  run scope .empty ts >>= fun s => unwind 0 s.pending s.values

theorem evaluate_eq_settle (scope : Scope α) (ts : List (Token α)) :
    evaluate scope ts = settle scope ts >>= fun u =>
      if u.1 then Traced.fail .unbalanced else finish u.2.pending u.2.values := by
  rw [settle, bind_assoc]
  simp only [← finish_eq_unwind]
  rfl

theorem settle_eq_error {scope : Scope α} {ts : List (Token α)} {e : Fault} (h : (settle scope ts).outcome = .error e) :
    e.OfToken ∨ (¬Balanced ts ∧ e = .unbalanced) := by
  rcases outcome_bind_eq_error.mp h with hrun | ⟨s, _, hu⟩
  · refine (run_eq_error hrun).imp_right fun ⟨hdepth, he⟩ => ⟨fun hbal => ?_, he⟩
    cases hdepth.symm.trans hbal
  · exact .inl ((unwind_eq_error hu).ofToken)

theorem settle_eq_ok {scope : Scope α} {ts : List (Token α)} {closed : Bool} {u : Stacks α}
    (h : (settle scope ts).outcome = .ok (closed, u)) :
    Accounted (tally .operand ts) (tally .operator ts) (settle scope ts).results u ∧
      depth? 0 ts = some (groups u.pending + closed.toNat) ∧ (closed = false → u.pending = []) := by
  obtain ⟨s, hrun, hu⟩ := Traced.outcome_bind_eq_ok.mp h
  have hunwinds := unwind_eq_ok_iff.mp hu
  refine ⟨?_, ?_, ?_⟩
  · have haccounts := (Accounted.empty.run hrun).unwind hu
    rw [List.nil_append, Nat.zero_add, Nat.zero_add] at haccounts
    rwa [settle, results_bind_of_ok hrun]
  · rw [← hunwinds.groups_eq]
    exact depth?_of_run hrun
  · rintro rfl
    exact hunwinds.pending_eq_nil

theorem results_finish_nil (vs : List α) : (finish [] vs).results = [] := by
  match vs with
  | [] | [_] | _ :: _ :: _ => rfl

/-- An evaluation ends at an operand or operator; or at parentheses that do not balance; or they do, everything has been
applied, and the values that are left decide. -/
theorem evaluate_cases (scope : Scope α) (ts : List (Token α)) :
    (∃ e, (evaluate scope ts).outcome = .error e ∧ e.OfToken) ∨
      ((evaluate scope ts).outcome = .error .unbalanced ∧ ¬Balanced ts) ∨
      (Balanced ts ∧ ∃ vs,
        Accounted (tally .operand ts) (tally .operator ts) (evaluate scope ts).results ⟨[], vs⟩ ∧
          (evaluate scope ts).outcome = (finish [] vs).outcome) := by
  rw [evaluate_eq_settle]
  cases hsettle : (settle scope ts).outcome with
  | error e =>
    rw [Traced.bind_of_error hsettle]
    rcases settle_eq_error hsettle with he | ⟨hbal, rfl⟩
    · exact .inl ⟨e, rfl, he⟩
    · exact .inr (.inl ⟨rfl, hbal⟩)
  | ok u =>
    obtain ⟨closed, u⟩ := u
    obtain ⟨haccounts, hdepth, hpending⟩ := settle_eq_ok hsettle
    cases closed with
    | true =>
      rw [Traced.bind_of_ok hsettle]
      refine .inr (.inl ⟨rfl, fun hbal => ?_⟩)
      cases hdepth.symm.trans hbal
    | false =>
      obtain ⟨ps, vs⟩ := u
      have hnil : ps = [] := hpending rfl
      subst hnil
      refine .inr (.inr ⟨hdepth, vs, ?_, ?_⟩)
      · rw [results_bind_of_ok hsettle]
        simpa [results_finish_nil] using haccounts
      · rw [Traced.bind_of_ok hsettle]
        rfl

/-- Parentheses alone open and close groups and do nothing else. -/
theorem run_of_parentheses (scope : Scope α) {ts : List (Token α)} (hoperands : tally .operand ts = 0)
    (hoperators : tally .operator ts = 0) {d e : Nat} (h : depth? d ts = some e) (vs : List α) :
    run scope ⟨List.replicate d .group, vs⟩ ts = pure ⟨List.replicate e .group, vs⟩ := by
  induction ts generalizing d with
  | nil =>
    cases h
    rfl
  | cons t ts ih =>
    rw [tally_cons] at hoperands hoperators
    rw [run_cons]
    cases t with
    | number x | name s => simp [Token.role] at hoperands
    | operator op => simp [Token.role] at hoperators
    | opening => exact ih hoperands hoperators (d := d + 1) h
    | closing =>
      cases d with
      | zero => cases h
      | succ d => exact ih hoperands hoperators (d := d) h

theorem evaluate_of_parentheses (scope : Scope α) {ts : List (Token α)} (hoperands : tally .operand ts = 0)
    (hoperators : tally .operator ts = 0) (h : Balanced ts) : evaluate scope ts = Traced.fail .emptyExpression := by
  have hrun := run_of_parentheses scope hoperands hoperators h []
  rw [evaluate]
  exact congrArg (· >>= _) hrun

variable {scope : Scope α} {ts : List (Token α)}

/-- Any other end than at a token or at parentheses that do not balance is made by the values that are left. -/
theorem accounted_of_end {outcome : Except Fault α} (h : (evaluate scope ts).outcome = outcome)
    (hend : ∀ e, outcome = .error e → ¬e.OfToken ∧ e ≠ .unbalanced) :
    Balanced ts ∧ ∃ vs,
      Accounted (tally .operand ts) (tally .operator ts) (evaluate scope ts).results ⟨[], vs⟩ ∧
        (finish [] vs).outcome = outcome := by
  obtain ⟨e, he, htoken⟩ | ⟨he, _⟩ | ⟨hbal, vs, haccounts, hfinish⟩ := evaluate_cases scope ts
  · exact absurd htoken (hend e (h.symm.trans he)).1
  · exact absurd rfl (hend .unbalanced (h.symm.trans he)).2
  · exact ⟨hbal, vs, haccounts, hfinish.symm.trans h⟩

theorem accounts_of_value {x : α} (h : (evaluate scope ts).outcome = .ok x) :
    tally .operand ts = tally .operator ts + 1 ∧ Balanced ts ∧
      (evaluate scope ts).results.length = tally .operator ts ∧
      (0 < tally .operator ts → (evaluate scope ts).results.getLast? = some x) := by
  obtain ⟨hbal, vs, haccounts, hfinish⟩ := accounted_of_end h (fun _ h => nomatch h)
  match vs, hfinish with
  | [_], rfl =>
    have hvalues : tally .operand ts = 1 + (evaluate scope ts).results.length := haccounts.values
    have hpending : tally .operator ts = 0 + (evaluate scope ts).results.length := haccounts.pending
    refine ⟨by omega, hbal, by omega, fun hpos => ?_⟩
    have hne : (evaluate scope ts).results ≠ [] := by
      rw [← List.length_pos_iff]
      omega
    have hlast := List.getLast?_eq_some_getLast hne
    rw [hlast, List.mem_singleton.mp (haccounts.latest _ hlast)]

theorem accounts_of_looseOperands {k : Nat} (h : (evaluate scope ts).outcome = .error (.looseOperands k)) :
    Balanced ts ∧ tally .operand ts = tally .operator ts + k ∧ 2 ≤ k := by
  obtain ⟨hbal, vs, haccounts, hfinish⟩ := accounted_of_end h (by rintro _ ⟨⟩; simp [Fault.OfToken])
  match vs, hfinish with
  | a :: b :: vs, rfl =>
    have hvalues := haccounts.values
    have hpending : tally .operator ts = 0 + (evaluate scope ts).results.length := haccounts.pending
    simp only [List.length_cons] at hvalues ⊢
    exact ⟨hbal, by omega, by omega⟩

theorem evaluate_eq_emptyExpression_iff :
    (evaluate scope ts).outcome = .error .emptyExpression ↔
      tally .operand ts = 0 ∧ tally .operator ts = 0 ∧ Balanced ts := by
  constructor
  · intro h
    obtain ⟨hbal, vs, haccounts, hfinish⟩ := accounted_of_end h (by rintro _ ⟨⟩; simp [Fault.OfToken])
    match vs, hfinish with
    | [], _ =>
      -- a result would still be there
      have hresults : (evaluate scope ts).results = [] := by
        rw [← List.getLast?_eq_none_iff, Option.eq_none_iff_forall_not_mem]
        exact fun r hr => List.not_mem_nil (haccounts.latest r hr)
      have hvalues := haccounts.values
      have hpending := haccounts.pending
      rw [hresults] at hvalues hpending
      exact ⟨hvalues, hpending, hbal⟩
    | [_], h | _ :: _ :: _, h => cases h
  · rintro ⟨hoperands, hoperators, hbal⟩
    rw [evaluate_of_parentheses scope hoperands hoperators hbal]
    rfl

theorem not_balanced_of_unbalanced (h : (evaluate scope ts).outcome = .error .unbalanced) : ¬Balanced ts := by
  obtain ⟨e, he, htoken⟩ | ⟨_, hbal⟩ | ⟨_, vs, _, hfinish⟩ := evaluate_cases scope ts
  · cases he.symm.trans h
    cases htoken
  · exact hbal
  · match vs, hfinish.symm.trans h with
    | [], h | [_], h | _ :: _ :: _, h => cases h

end Evaluation

/-! ## Rows -/

/-- A row that has a value has one operand more than operators, and its parentheses pair up; all its operators have been
applied, and the last one has given the value. Where operands are left over, the parentheses pair up too, and the row
has that many operands more than operators. Nothing is left exactly where there is nothing but parentheses that pair up.
Where they do not pair up the row always fails, and nothing else is called unbalanced. -/
theorem evaluate_accounts [Scalar α] (scope : Scope α) (ts : List (Token α)) :
    (∀ x, (evaluate scope ts).outcome = .ok x →
      tally .operand ts = tally .operator ts + 1 ∧ Paired ts ∧
        (evaluate scope ts).results.length = tally .operator ts ∧
        (0 < tally .operator ts → (evaluate scope ts).results.getLast? = some x)) ∧
    (∀ k, (evaluate scope ts).outcome = .error (.looseOperands k) →
      Paired ts ∧ tally .operand ts = tally .operator ts + k ∧ 2 ≤ k) ∧
    ((evaluate scope ts).outcome = .error .emptyExpression ↔
      tally .operand ts = 0 ∧ tally .operator ts = 0 ∧ Paired ts) ∧
    ((evaluate scope ts).outcome = .error .unbalanced → ¬Paired ts) ∧
    (¬Paired ts → ∃ e, (evaluate scope ts).outcome = .error e) := by
  simp only [← balanced_iff_paired]
  refine ⟨fun x hx => Evaluation.accounts_of_value hx, fun k hk => Evaluation.accounts_of_looseOperands hk,
    Evaluation.evaluate_eq_emptyExpression_iff, Evaluation.not_balanced_of_unbalanced, fun hbal => ?_⟩
  cases h : (evaluate scope ts).outcome with
  | ok x => exact absurd (balanced_of_accepted h) hbal
  | error e => exact ⟨e, rfl⟩

end DeskCalc
