/-! # Operators and their ranks

* `symbols`: the six characters that are tokens by themselves.
* `rank?`: how tightly a symbol binds; symbols stand in pairs of equal rank, the loosest pair first.
* `Operator`: the four operations, each with its symbol and rank.
-/

namespace DeskCalc
set_option autoImplicit false

/-- Grouping and operator symbols, two of each rank. -/
def symbols : List Char := ['(', ')', '+', '-', '/', '*']

def rank? (c : Char) : Option Nat := (symbols.idxOf? c).map (· / 2)

inductive Operator where
  | add
  | subtract
  | multiply
  | divide
  deriving DecidableEq, Repr

namespace Operator

def symbol : Operator → Char
  | add => '+'
  | subtract => '-'
  | multiply => '*'
  | divide => '/'

def ofSymbol? : Char → Option Operator
  | '+' => some add
  | '-' => some subtract
  | '*' => some multiply
  | '/' => some divide
  | _ => none

def text (op : Operator) : String := String.singleton op.symbol

def rank (op : Operator) : Nat := (rank? op.symbol).getD 0

theorem ofSymbol?_eq_some_iff {c : Char} {op : Operator} : ofSymbol? c = some op ↔ c = op.symbol := by
  constructor
  · intro h
    unfold ofSymbol? at h
    split at h <;> cases h <;> rfl
  · rintro rfl
    cases op <;> rfl

end Operator

end DeskCalc
