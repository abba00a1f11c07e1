import DeskCalc.Proofs.Expression.Substitution
import DeskCalc.Proofs.Memory.Parts

/-! # Commands in either order

Commands that have nothing to do with each other can be run in either order. Each of them answers and reports what it
would alone, and fails exactly if it would alone, and both orders leave the same memory.

* `Memory.afterCommand`, `Memory.answer`: what a command leaves, and what it says.
* `Memory.keep`: all that an assignment does is to keep a value, if there is one.
* `Memory.evaluateTokens_keep`: a row that does not name a variable does not notice an assignment to it.
* `Command.Independent`: two assignments that do not mention each other's variables, two definitions of different
  functions, or a definition and an assignment.
* `Memory.EitherOrder`: what it means that the order does not matter. `Memory.assignments_eitherOrder`,
  `Memory.definitions_eitherOrder`, `Memory.definition_assignment_eitherOrder`: one lemma for each of these pairs.
* `Memory.independent_eitherOrder`: all of them.
-/

namespace DeskCalc
open DeskCalc.Number
set_option autoImplicit false

variable {α : Type}

namespace Memory

/-! ## Setting variables and functions -/

/-- A fault leaves nothing to be kept. -/
def keep (m : Memory α) (name : String) : Except Fault α → Memory α
  | .ok x => m.assign name x
  | .error _ => m

theorem assign_comm (m : Memory α) {x y : String} (h : x ≠ y) (a b : α) :
    (m.assign x a).assign y b = (m.assign y b).assign x a := by
  simp only [assign, m.values.insert_comm h a b]

theorem define_comm (m : Memory α) {f g : Formula α} (h : f.name ≠ g.name) :
    (m.define f).define g = (m.define g).define f := by
  simp only [define, m.functions.insert_comm h f g]

theorem keep_comm (m : Memory α) {x y : String} (h : x ≠ y) (first second : Except Fault α) :
    (m.keep x first).keep y second = (m.keep y second).keep x first := by
  cases first with
  | error e => rfl
  | ok a =>
    cases second with
    | error e => rfl
    | ok b => exact m.assign_comm h a b

theorem define_keep (m : Memory α) (f : Formula α) (name : String) (outcome : Except Fault α) :
    (m.define f).keep name outcome = (m.keep name outcome).define f := by
  cases outcome with
  | error e => rfl
  | ok x => rfl

variable [Scalar α]

/-! ## Commands one by one -/

/-- The memory that a command leaves. -/
def afterCommand (m : Memory α) (command : Command α) : Memory α := m.after (m.run command)

/-- The value, nothing, or the fault of a command, with its reports. -/
def answer (m : Memory α) (command : Command α) : Traced α (Option α) := Prod.fst <$> m.run command

theorem afterCommand_define (m : Memory α) (f : Formula α) : m.afterCommand (.define f) = m.define f := m.after_define f

theorem afterCommand_assign (m : Memory α) (name : String) (tokens : List (Token α)) :
    m.afterCommand (.assign name tokens) = m.keep name (m.evaluateTokens tokens).outcome := by
  cases h : (m.evaluateTokens tokens).outcome with
  | ok x => exact after_assign_of_ok h
  | error e => exact after_assign_of_error h

/-- No answer of a definition depends on the memory. -/
theorem answer_define_eq (m n : Memory α) (f : Formula α) : m.answer (.define f) = n.answer (.define f) := by
  simp only [answer, run, map_bind, map_pure]

theorem answer_assign_eq {m n : Memory α} {tokens : List (Token α)}
    (h : m.evaluateTokens tokens = n.evaluateTokens tokens) (name : String) :
    m.answer (.assign name tokens) = n.answer (.assign name tokens) := by
  rw [evaluateTokens, evaluateTokens] at h
  rw [answer, answer, answer_assign, answer_assign, h]

theorem evaluateTokens_keep (m : Memory α) {name : String} {tokens : List (Token α)} (h : .name name ∉ tokens)
    (outcome : Except Fault α) : (m.keep name outcome).evaluateTokens tokens = m.evaluateTokens tokens := by
  cases outcome with
  | error e => rfl
  | ok x =>
    refine evaluate_congr fun other hother => ?_
    have hne : other ≠ name := fun heq => h (heq ▸ hother)
    rw [Scope.find?_ofShared, Scope.find?_ofShared]
    exact m.values.get?_insert_of_ne x hne

/-! ## Two commands -/

/-- Both orders leave the same memory, and neither command can tell whether the other one came first. -/
structure EitherOrder (m : Memory α) (c d : Command α) : Prop where
  memory : (m.afterCommand c).afterCommand d = (m.afterCommand d).afterCommand c
  first : (m.afterCommand d).answer c = m.answer c
  second : (m.afterCommand c).answer d = m.answer d

theorem EitherOrder.symm {m : Memory α} {c d : Command α} (h : m.EitherOrder c d) : m.EitherOrder d c :=
  ⟨h.memory.symm, h.second, h.first⟩

/-- The second assignment finds what it would have found before the first one. -/
theorem afterCommand_assign_assign (m : Memory α) {x : String} {us : List (Token α)} (hx : .name x ∉ us)
    (ts : List (Token α)) (y : String) :
    (m.afterCommand (.assign x ts)).afterCommand (.assign y us) =
      (m.keep x (m.evaluateTokens ts).outcome).keep y (m.evaluateTokens us).outcome := by
  rw [afterCommand_assign, afterCommand_assign, evaluateTokens_keep m hx]

theorem answer_afterCommand_assign (m : Memory α) {x : String} {us : List (Token α)} (hx : .name x ∉ us)
    (ts : List (Token α)) (y : String) :
    (m.afterCommand (.assign x ts)).answer (.assign y us) = m.answer (.assign y us) := by
  rw [afterCommand_assign]
  exact answer_assign_eq (evaluateTokens_keep m hx _) y

theorem assignments_eitherOrder (m : Memory α) {x y : String} {ts us : List (Token α)} (h : x ≠ y)
    (hx : .name x ∉ us) (hy : .name y ∉ ts) : m.EitherOrder (.assign x ts) (.assign y us) where
  memory := by
    rw [m.afterCommand_assign_assign hx, m.afterCommand_assign_assign hy, m.keep_comm h]
  first := m.answer_afterCommand_assign hy us x
  second := m.answer_afterCommand_assign hx ts y

theorem definitions_eitherOrder (m : Memory α) {f g : Formula α} (h : f.name ≠ g.name) :
    m.EitherOrder (.define f) (.define g) := by
  refine ⟨?_, answer_define_eq _ m f, answer_define_eq _ m g⟩
  simp only [afterCommand_define, m.define_comm h]

/-- Variables and functions are apart, so that even their names may be equal. -/
theorem definition_assignment_eitherOrder (m : Memory α) (f : Formula α) (x : String) (ts : List (Token α)) :
    m.EitherOrder (.define f) (.assign x ts) := by
  have hts : (m.define f).evaluateTokens ts = m.evaluateTokens ts := rfl
  refine ⟨?_, answer_define_eq _ m f, ?_⟩
  · rw [afterCommand_define, afterCommand_assign, hts, define_keep, afterCommand_assign, afterCommand_define]
  · rw [afterCommand_define]
    exact answer_assign_eq hts x

end Memory

/-- Neither command sets what the other one sets or reads. -/
inductive Command.Independent : Command α → Command α → Prop where
  | assignments {x y : String} {ts us : List (Token α)} (h : x ≠ y) (hx : .name x ∉ us) (hy : .name y ∉ ts) :
    Independent (.assign x ts) (.assign y us)
  | definitions {f g : Formula α} (h : f.name ≠ g.name) : Independent (.define f) (.define g)
  | definition_assignment (f : Formula α) (x : String) (ts : List (Token α)) :
    Independent (.define f) (.assign x ts)
  | assignment_definition (x : String) (ts : List (Token α)) (f : Formula α) :
    Independent (.assign x ts) (.define f)

variable [Scalar α]

/-- In every memory, independent commands can be run in either order, whether or not they fail. -/
theorem Memory.independent_eitherOrder (m : Memory α) (c d : Command α) (h : c.Independent d) : m.EitherOrder c d := by
  cases h with
  | assignments h hx hy => exact m.assignments_eitherOrder h hx hy
  | definitions h => exact m.definitions_eitherOrder h
  | definition_assignment f x ts => exact m.definition_assignment_eitherOrder f x ts
  | assignment_definition x ts f => exact (m.definition_assignment_eitherOrder f x ts).symm

/-- The first assignment fails and the second one does not. -/
theorem Memory.independent_eitherOrder_failing :
    (Command.assign "a" [.name "c", .operator .divide, .number (0 : Float)]).Independent
        (.assign "b" [.name "c", .operator .add, .number 1]) ∧
      (((∅ : Memory Float).assign "c" 8).answer (.assign "a" [.name "c", .operator .divide, .number 0])).outcome =
        .error .divisionByZero ∧
      ((∅ : Memory Float).assign "c" 8).EitherOrder (.assign "a" [.name "c", .operator .divide, .number 0])
        (.assign "b" [.name "c", .operator .add, .number 1]) := by
  have h : (Command.assign "a" [.name "c", .operator .divide, .number (0 : Float)]).Independent
      (.assign "b" [.name "c", .operator .add, .number 1]) :=
    .assignments (by decide) (by simp) (by simp)
  exact ⟨h, by decide +kernel, independent_eitherOrder _ _ _ h⟩

end DeskCalc
