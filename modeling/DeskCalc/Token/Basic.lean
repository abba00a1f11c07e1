import DeskCalc.Operator.Basic

/-! # Tokens

* `Token`: the pieces an expression consists of.
-/

namespace DeskCalc
set_option autoImplicit false

inductive Token (α : Type) where
  | number (value : α)
  | name (name : String)
  | operator (op : Operator)
  | opening
  | closing
  deriving BEq, DecidableEq, Repr

end DeskCalc
