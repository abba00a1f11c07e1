import DeskCalc.Formula

/-! # Commands

* `Command`: what a line asks for.
-/

namespace DeskCalc
set_option autoImplicit false

inductive Command (α : Type) where
  /-- Show the value of an expression. -/
  | display (tokens : List (Token α))
  /-- Keep the value of an expression in a variable. -/
  | assign (name : String) (tokens : List (Token α))
  | define (formula : Formula α)
  /-- Show the value of a function at arguments that are variables or numbers. -/
  | call (name : String) (arguments : List String)
  deriving BEq, DecidableEq, Repr

end DeskCalc
