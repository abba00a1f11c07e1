import DeskCalc.Fault
import DeskCalc.Number.Scalar

/-! # Applying an operator

* `Operator.ofText`: the operator that a text names.
* `Operator.apply`: its value at two numbers; dividing by zero of either sign is a fault.
-/

namespace DeskCalc.Operator
open DeskCalc.Number
set_option autoImplicit false

def ofText (s : String) : Except Fault Operator :=
  match s.toList with
  | [c] => (ofSymbol? c).elim (.error (.unknownOperator s)) .ok
  | _ => .error (.unknownOperator s)

/-- The divisor is looked at before dividing. -/
def apply {α : Type} [Scalar α] (op : Operator) (a b : α) : Except Fault α :=
  match op with
  | add => .ok (a + b)
  | subtract => .ok (a - b)
  | multiply => .ok (a * b)
  | divide => if b == Scalar.zero then .error .divisionByZero else .ok (a / b)

theorem apply_eq_error_iff {α : Type} [Scalar α] {op : Operator} {a b : α} {e : Fault} :
    op.apply a b = .error e ↔ op = divide ∧ (b == Scalar.zero) = true ∧ e = .divisionByZero := by
  cases op <;> simp [apply]
  split <;> simp [*, @eq_comm Fault _ e]

end DeskCalc.Operator
