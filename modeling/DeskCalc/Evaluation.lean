import DeskCalc.Operator.Apply
import DeskCalc.Trace

/-! # Evaluation

The value of a row of tokens, computed from left to right with two stacks: the values so far, and the operators and
groups that are still open. An operator is applied when one that binds no tighter follows, when its group closes, or
at the end.

* `Scope`: the numbers that names stand for.
* `Pending`, `Stacks`: what is open, and both stacks, tops first.
* `reduce`, `unwind`: applying the topmost operator, and all that bind at least as tightly as a rank.
* `step`, `finish`: one token, and the end.
* `evaluate`: all of it.
-/

namespace DeskCalc
open DeskCalc.Number
set_option autoImplicit false

/-! ## Names -/

/-- The names of one computation: its own ones hide the shared ones. -/
structure Scope (α : Type) where
  own : Table α
  shared : Table α

namespace Scope

variable {α : Type}

def empty : Scope α := ⟨∅, ∅⟩

/-- No names of its own. -/
def ofShared (shared : Table α) : Scope α := ⟨∅, shared⟩

def find? (s : Scope α) (name : String) : Option α := (s.own.get? name).or (s.shared.get? name)

@[simp] theorem find?_empty (name : String) : (empty : Scope α).find? name = none := rfl

@[simp] theorem find?_ofShared (shared : Table α) (name : String) :
    (ofShared shared).find? name = shared.get? name := rfl

end Scope

/-! ## Stacks -/

inductive Pending where
  | group
  | operation (op : Operator)
  deriving DecidableEq, Repr

def Pending.rank : Pending → Nat
  | group => (rank? '(').getD 0
  | operation op => op.rank

@[simp] theorem Pending.rank_group : Pending.rank .group = 0 := rfl

@[simp] theorem Pending.rank_operation (op : Operator) : Pending.rank (.operation op) = op.rank := rfl

structure Stacks (α : Type) where
  pending : List Pending
  values : List α
  deriving DecidableEq, Repr

def Stacks.empty {α : Type} : Stacks α := ⟨[], []⟩

/-- Stacks up to this height are small. -/
def smallHeight : Nat := 16

/-! ## The run -/

namespace Evaluation

variable {α : Type} [Scalar α]

/-- The topmost value is the right operand. -/
def reduce (op : Operator) : List α → Traced α (List α)
  | b :: a :: rest => do
    let r ← Traced.ofExcept (op.apply a b)
    Traced.emit (.reduced a op b r)
    pure (r :: rest)
  | _ => Traced.fail (.missingOperand op)

/-- Applies operators from the top as long as their rank is at least the given one. Says whether an open group
stopped it; the group is then closed. -/
def unwind (rank : Nat) : List Pending → List α → Traced α (Bool × Stacks α)
  | [], values => pure (false, ⟨[], values⟩)
  | top :: rest, values =>
    if top.rank < rank then pure (false, ⟨top :: rest, values⟩)
    else match top with
      | .group => pure (true, ⟨rest, values⟩)
      | .operation op => do
        let values ← reduce op values
        unwind rank rest values

def step (scope : Scope α) (s : Stacks α) : Token α → Traced α (Stacks α)
  | .number x => pure ⟨s.pending, x :: s.values⟩
  | .name name =>
    match scope.find? name with
    | some x => pure ⟨s.pending, x :: s.values⟩
    | none => Traced.fail (.undefinedName name)
  | .opening => pure ⟨.group :: s.pending, s.values⟩
  | .closing => do
    let (closed, s) ← unwind ((rank? ')').getD 0) s.pending s.values
    if closed then pure s else Traced.fail .unbalanced
  | .operator op => do
    let (_, s) ← unwind op.rank s.pending s.values
    pure ⟨.operation op :: s.pending, s.values⟩

/-- The stacks after a row of tokens. -/
def run (scope : Scope α) (s : Stacks α) (tokens : List (Token α)) : Traced α (Stacks α) :=
  tokens.foldlM (step scope) s

@[simp] theorem run_nil (scope : Scope α) (s : Stacks α) : run scope s [] = pure s := rfl

theorem run_cons (scope : Scope α) (s : Stacks α) (t : Token α) (ts : List (Token α)) :
    run scope s (t :: ts) = step scope s t >>= fun s' => run scope s' ts := rfl

theorem run_append (scope : Scope α) (s : Stacks α) (ts us : List (Token α)) :
    run scope s (ts ++ us) = run scope s ts >>= fun s' => run scope s' us :=
  List.foldlM_append

/-- Applies what is still pending. No group may be open, and one value must remain. -/
def finish : List Pending → List α → Traced α α
  | .group :: _, _ => Traced.fail .unbalanced
  | .operation op :: rest, values => do
    let values ← reduce op values
    finish rest values
  | [], [x] => pure x
  | [], [] => Traced.fail .emptyExpression
  | [], values => Traced.fail (.looseOperands values.length)

end Evaluation

variable {α : Type} [Scalar α]

def evaluate (scope : Scope α) (tokens : List (Token α)) : Traced α α := do
  let s ← Evaluation.run scope .empty tokens
  Evaluation.finish s.pending s.values

end DeskCalc
