import DeskCalc.Table.Basic
import DeskCalc.Token.Printer

/-! # Formulas

A formula is a named expression with parameters, the body of a function.

* `Formula`: name, parameters and body. Nothing is asked of them here; a definition line asks more.
* `Formula.text`: the line that defines it.
* `Formula.store`: putting it into a table.
-/

namespace DeskCalc
open DeskCalc.Number
set_option autoImplicit false

structure Formula (α : Type) where
  name : String
  params : List String
  body : List (Token α)
  deriving BEq, DecidableEq, Repr

namespace Formula

def arity {α : Type} (f : Formula α) : Nat := f.params.length

def text {α : Type} [Scalar α] (f : Formula α) : String :=
  "def " ++ f.name ++ "(" ++ ", ".intercalate f.params ++ ") = " ++ Token.unparse f.body

/-- It is stored under its own name, and a formula that it displaces is handed out. -/
def store {α : Type} (f : Formula α) (t : Table (Formula α)) : Option (Formula α) × Table (Formula α) :=
  t.exchange f.name f

/-- A parameter list up to this length is small. -/
def smallArity : Nat := 4

end Formula

end DeskCalc
