import DeskCalc.Number.Format

/-! # Shortest digits

The fewest significant digits that are read back as the same number; of those, the ones nearest to it.

* `Format.expansion`: all digits of a number, which are finitely many.
* `Format.rounded?`: its digits cut to a given count, down or up, if they are read back as the number.
* `Format.shortest`: the first count that succeeds.
-/

namespace DeskCalc.Number
set_option autoImplicit false

/-- The number `digits * 10 ^ exponent`. -/
structure Decimal where
  digits : Nat
  exponent : Int
  deriving DecidableEq, Repr

namespace Format

/-- The exact decimal of a magnitude, its point `scale` places from the right: a unit is `5 ^ scale / 10 ^ scale`. -/
def expansion (f : Format) (magnitude : Nat) : Nat := f.units magnitude * Nat.pow 5 f.scale

def readsBack (f : Format) (magnitude : Nat) (expansion : Nat) : Bool :=
  f.nearest expansion (Nat.pow 10 f.scale) == magnitude

/-- Of the two neighbours on the grid of the last kept digit, the one read back as the number; of two, the nearer,
and halfway the greater. -/
def rounded? (f : Format) (magnitude count : Nat) : Option Decimal :=
  let all := f.expansion magnitude
  let dropped := (Nat.toDigits 10 all).length - count
  let grid := Nat.pow 10 dropped
  let low := all / grid
  let result (n : Nat) : Decimal := ⟨n, dropped - f.scale⟩
  let lowFits := f.readsBack magnitude (low * grid)
  let highFits := f.readsBack magnitude ((low + 1) * grid)
  if lowFits && (!highFits || 2 * (all % grid) < grid) then some (result low)
  else if highFits then some (result (low + 1))
  else none

/-- Seventeen digits are enough for every format of at most 53 binary ones. -/
def mostDigits : Nat := 17

def shortest (f : Format) (magnitude : Nat) : Decimal :=
  ((List.range mostDigits).findSome? fun n => f.rounded? magnitude (n + 1)).getD
    ⟨f.expansion magnitude, -f.scale⟩

example : double.shortest 0x3FB999999999999A = ⟨1, -1⟩ ∧ double.shortest 1 = ⟨5, -324⟩ ∧
    single.shortest 0x3DCCCCCD = ⟨1, -1⟩ ∧ double.shortest 0x4340000000000001 = ⟨9007199254740994, 0⟩ := by
  decide +kernel

end Format

end DeskCalc.Number
