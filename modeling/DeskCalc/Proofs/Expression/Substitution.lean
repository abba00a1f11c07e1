import DeskCalc.Proofs.Expression.Faults

/-! # Names and numbers

A name stands for its number, whatever the row is: the number can be put in its place before the evaluation, for all
names or for some of them. A name that has no number makes the row fail, and if the row fails for such a name it is for
the first one.

* `Token.substitute`: a name becomes its number if it has one.
* `FirstUndefined`: the first name of a row that has no number, neither of its own nor a shared one.
* `evaluate_substitute`: names that are substituted need not be looked up.
* `evaluate_congr`: no name counts that the row does not have.
* `Evaluation.defined_of_run`, `Evaluation.firstUndefined_of_run`: how far a run comes without the number of a name.
* `evaluate_resolved`: the evaluation of a row without its names.
-/

namespace DeskCalc
open DeskCalc.Number
set_option autoImplicit false

variable {α : Type}

/-! ## Names in a row -/

namespace Token

/-- Other tokens, and names without a number, stay. -/
def substitute (value? : String → Option α) : Token α → Token α
  | name s => (value? s).elim (name s) number
  | t => t

theorem substitute_name (value? : String → Option α) (s : String) :
    (name s).substitute value? = (value? s).elim (name s) number := rfl

end Token

/-- The name has no number, neither of its own nor a shared one, and all names before it have one. -/
structure FirstUndefined (scope : Scope α) (ts : List (Token α)) (name : String) : Prop where
  place : ∃ before behind, ts = before ++ .name name :: behind ∧
    ∀ earlier, .name earlier ∈ before → ∃ x, (scope.own.get? earlier).or (scope.shared.get? earlier) = some x
  undefined : (scope.own.get? name).or (scope.shared.get? name) = none

theorem FirstUndefined.cons {scope : Scope α} {ts : List (Token α)} {name : String} (h : FirstUndefined scope ts name)
    {t : Token α}
    (ht : ∀ earlier, t = .name earlier → ∃ x, (scope.own.get? earlier).or (scope.shared.get? earlier) = some x) :
    FirstUndefined scope (t :: ts) name where
  place := by
    obtain ⟨before, behind, hts, hbefore⟩ := h.place
    refine ⟨t :: before, behind, by rw [hts, List.cons_append], fun earlier hearlier => ?_⟩
    rcases List.mem_cons.mp hearlier with heq | hmem
    · exact ht earlier heq.symm
    · exact hbefore earlier hmem
  undefined := h.undefined

variable [Scalar α]

/-! ## Substituted names -/

namespace Evaluation

/-- A name that is not substituted must stand for the same number as before. -/
theorem step_substitute {scope scope' : Scope α} {value? : String → Option α}
    (h : ∀ name, scope.find? name = (value? name).or (scope'.find? name)) (s : Stacks α) (t : Token α) :
    step scope' s (t.substitute value?) = step scope s t := by
  cases t with
  | number x => rfl
  | opening => rfl
  | closing => rfl
  | operator op => rfl
  | name name =>
    rw [Token.substitute_name]
    cases hx : value? name with
    | some x => simp [step, h, hx]
    | none => simp [step, h, hx]

theorem run_substitute {scope scope' : Scope α} {value? : String → Option α}
    (h : ∀ name, scope.find? name = (value? name).or (scope'.find? name)) (s : Stacks α) (ts : List (Token α)) :
    run scope' s (ts.map (Token.substitute value?)) = run scope s ts := by
  induction ts generalizing s with
  | nil => rfl
  | cons t ts ih =>
    rw [List.map_cons, run_cons, run_cons, step_substitute h]
    simp only [ih]

end Evaluation

theorem evaluate_substitute {scope scope' : Scope α} {value? : String → Option α}
    (h : ∀ name, scope.find? name = (value? name).or (scope'.find? name)) (ts : List (Token α)) :
    evaluate scope' (ts.map (Token.substitute value?)) = evaluate scope ts := by
  rw [evaluate, evaluate, Evaluation.run_substitute h]

/-- Only the names in the row count. -/
theorem evaluate_congr {scope scope' : Scope α} {ts : List (Token α)}
    (h : ∀ name, .name name ∈ ts → scope.find? name = scope'.find? name) : evaluate scope ts = evaluate scope' ts := by
  have hempty : ∀ (s : Scope α) (name : String), s.find? name = (s.find? name).or (Scope.empty.find? name) := by simp
  have htokens : ts.map (Token.substitute scope.find?) = ts.map (Token.substitute scope'.find?) := by
    refine List.map_congr_left fun t ht => ?_
    cases t with
    | name name => rw [Token.substitute_name, Token.substitute_name, h name ht]
    | number | operator | opening | closing => rfl
  rw [← evaluate_substitute (hempty scope), htokens, evaluate_substitute (hempty scope')]

/-! ## Undefined names -/

namespace Evaluation

theorem defined_of_step {scope : Scope α} {s s' : Stacks α} {t : Token α} (h : (step scope s t).outcome = .ok s')
    (name : String) (ht : t = .name name) : ∃ x, (scope.own.get? name).or (scope.shared.get? name) = some x := by
  subst ht
  cases step_eq_ok_iff.mp h with
  | name hx => exact ⟨_, hx⟩

theorem defined_of_run {scope : Scope α} {s s' : Stacks α} {ts : List (Token α)}
    (h : (run scope s ts).outcome = .ok s') (name : String) (hname : .name name ∈ ts) :
    ∃ x, (scope.own.get? name).or (scope.shared.get? name) = some x := by
  induction ts generalizing s with
  | nil => cases hname
  | cons t ts ih =>
    rw [run_cons] at h
    obtain ⟨u, hu, hrest⟩ := Traced.outcome_bind_eq_ok.mp h
    rcases List.mem_cons.mp hname with heq | hmem
    · exact defined_of_step hu name heq.symm
    · exact ih hrest hmem

/-- A run that stops at a name has found all names before it. -/
theorem firstUndefined_of_run {scope : Scope α} {s : Stacks α} {ts : List (Token α)} {e : Fault}
    (h : (run scope s ts).outcome = .error e) (he : e.kind = .undefinedName) :
    ∃ name, FirstUndefined scope ts name ∧ e = .undefinedName name := by
  induction ts generalizing s with
  | nil => cases h
  | cons t ts ih =>
    rw [run_cons] at h
    rcases Traced.outcome_bind_eq_error.mp h with h | ⟨u, hu, h⟩
    · obtain hop | ⟨name, rfl, hnone, rfl⟩ | ⟨_, _, rfl⟩ := step_eq_error h
      · exact absurd he hop.kind_ne
      · exact ⟨name, ⟨⟨[], ts, rfl, fun _ h => nomatch h⟩, hnone⟩, rfl⟩
      · cases he
    · obtain ⟨name, hfirst, rfl⟩ := ih h
      exact ⟨name, hfirst.cons (defined_of_step hu), rfl⟩

end Evaluation

/-- Every row evaluates as the row in which its names are numbers, as far as they have one, where no name is defined.
The number of a name is its own one, or else the shared one. If some name has neither, the row fails; and if it fails
for a name, it is for the first one without a number. -/
theorem evaluate_resolved (scope : Scope α) (ts : List (Token α)) :
    evaluate scope ts =
      evaluate .empty (ts.map (Token.substitute fun name => (scope.own.get? name).or (scope.shared.get? name))) ∧
    ((∃ name, .name name ∈ ts ∧ (scope.own.get? name).or (scope.shared.get? name) = none) →
      ∃ e, (evaluate scope ts).outcome = .error e ∧
        (e.kind = .undefinedName → ∃ name, FirstUndefined scope ts name ∧ e = .undefinedName name)) := by
  constructor
  · have hempty (name : String) :
        scope.find? name = ((scope.own.get? name).or (scope.shared.get? name)).or (Scope.empty.find? name) := by
      rw [Scope.find?_empty, Option.or_none, Scope.find?]
    exact (evaluate_substitute hempty ts).symm
  · rintro ⟨name, hname, hnone⟩
    cases hrun : (Evaluation.run scope .empty ts).outcome with
    | ok s =>
      obtain ⟨x, hx⟩ := Evaluation.defined_of_run hrun name hname
      cases hnone.symm.trans hx
    | error e =>
      exact ⟨e, Traced.outcome_bind_eq_error.mpr (.inl hrun), Evaluation.firstUndefined_of_run hrun⟩

end DeskCalc
