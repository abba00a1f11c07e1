import DeskCalc.Evaluation

/-! # Expressions

The infix grammar of rows of tokens. It has three tiers, and every operator belongs to one of them:

* a sum is a product, or a sum, `+` or `-`, and a product;
* a product is a factor, or a product, `*` or `/`, and a factor;
* a factor is a number, a name, or a sum between parentheses.

* `Expression`: the trees of a tier. A chain of operators of one tier leans to the left.
* `Expression.tokens`: the row of tokens that a tree stands for.
* `Operator.arithmetic`: what an operator makes of two numbers.
* `Expression.value`: the value of a tree, found by recursion: left operand, right operand, operator, up to the first
  fault.
* `Expression.reductions`: the reports of the operators that are applied on the way, operands before operators.
-/

namespace DeskCalc
open DeskCalc.Number
set_option autoImplicit false

/-! ## Tiers -/

inductive Tier where
  | sum
  | product
  | factor
  deriving DecidableEq, Repr

/-- The tier of the right operands in a chain. -/
def Tier.tighter : Tier → Tier
  | sum => product
  | product => factor
  | factor => factor

/-- Operators of a tier have this rank; there are none among the factors. -/
def Tier.rank : Tier → Nat
  | sum => 1
  | product => 2
  | factor => 3

def Operator.tier : Operator → Tier
  | add => .sum
  | subtract => .sum
  | multiply => .product
  | divide => .product

theorem Operator.rank_tier (op : Operator) : op.tier.rank = op.rank := by
  cases op <;> rfl

theorem Operator.rank_pos (op : Operator) : 0 < op.rank := by
  cases op <;> decide

theorem Operator.rank_lt_tighter (op : Operator) : op.rank < op.tier.tighter.rank := by
  cases op <;> decide

theorem Tier.rank_le_tighter (tier : Tier) : tier.rank ≤ tier.tighter.rank := by
  cases tier <;> decide

/-- Plain arithmetic, but nothing is divided by zero. -/
def Operator.arithmetic {α : Type} [Scalar α] (a b : α) : Operator → Except Fault α
  | add => .ok (a + b)
  | subtract => .ok (a - b)
  | multiply => .ok (a * b)
  | divide => if b == Scalar.zero then .error .divisionByZero else .ok (a / b)

theorem Operator.apply_eq_arithmetic {α : Type} [Scalar α] (op : Operator) (a b : α) :
    op.apply a b = op.arithmetic a b := by
  cases op <;> rfl

/-! ## Trees -/

inductive Expression (α : Type) : Tier → Type where
  | number (x : α) : Expression α .factor
  | name (name : String) : Expression α .factor
  /-- A sum between parentheses. -/
  | group (inner : Expression α .sum) : Expression α .factor
  /-- A chain without operators. -/
  | single {tier : Tier} (e : Expression α tier.tighter) : Expression α tier
  /-- A chain with one operator more. -/
  | chain {tier : Tier} (left : Expression α tier) (op : Operator) (h : op.tier = tier)
      (right : Expression α tier.tighter) : Expression α tier

namespace Expression

variable {α : Type}

def tokens {tier : Tier} : Expression α tier → List (Token α)
  | number x => [.number x]
  | name s => [.name s]
  | group inner => .opening :: inner.tokens ++ [.closing]
  | single e => e.tokens
  | chain left op _ right => left.tokens ++ .operator op :: right.tokens

variable [Scalar α]

/-- A name of its own hides a shared one. The first fault wins. -/
def value (scope : Scope α) {tier : Tier} : Expression α tier → Except Fault α
  | number x => .ok x
  | name s =>
    match scope.own.get? s with
    | some x => .ok x
    | none => (scope.shared.get? s).elim (.error (.undefinedName s)) .ok
  | group inner => inner.value scope
  | single e => e.value scope
  | chain left op _ right => do
    let a ← left.value scope
    let b ← right.value scope
    op.arithmetic a b

/-- An operator that has been applied to the values of its operands is reported. -/
def reduction (op : Operator) : Except Fault α → Except Fault α → List (Event α)
  | .ok a, .ok b =>
    match op.arithmetic a b with
    | .ok r => [.reduced a op b r]
    | .error _ => []
  | _, _ => []

/-- The right operand is left alone if there is no value of the left one. -/
def reductions (scope : Scope α) {tier : Tier} : Expression α tier → List (Event α)
  | number _ => []
  | name _ => []
  | group inner => inner.reductions scope
  | single e => e.reductions scope
  | chain left op _ right =>
    left.reductions scope ++ (if (left.value scope).isOk then right.reductions scope else []) ++
      reduction op (left.value scope) (right.value scope)

theorem value_name (scope : Scope α) (s : String) :
    (name s : Expression α .factor).value scope = (scope.find? s).elim (.error (.undefinedName s)) .ok := by
  rw [value, Scope.find?]
  cases scope.own.get? s with
  | none => rfl
  | some x => rfl

end Expression

end DeskCalc
