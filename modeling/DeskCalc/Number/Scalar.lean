import DeskCalc.Number.Layout
import DeskCalc.Number.Numeral

/-! # Number types

What the calculator asks of the numbers it computes with.

* `Scalar`: the four operations, a comparison, zero, reading and writing, and which numbers are finite.
* The two instances: `Float` in the format `double`, `Float32` in the format `single`.
-/

namespace DeskCalc.Number
set_option autoImplicit false

class Scalar (α : Type) extends Add α, Sub α, Mul α, Div α, BEq α where
  zero : α
  /-- The number nearest to a written one. -/
  read? : List Char → Option α
  /-- The shortest text that is read back as the number. -/
  text : α → String
  isFinite : α → Bool

instance : Scalar Float where
  zero := Float.ofBits 0
  read? cs := (Format.double.read? cs).map fun n => Float.ofBits n.toUInt64
  text x := String.ofList (Format.double.text x.toBits.toNat)
  isFinite x := Format.double.isFinite x.toBits.toNat

instance : Scalar Float32 where
  zero := Float32.ofBits 0
  read? cs := (Format.single.read? cs).map fun n => Float32.ofBits n.toUInt32
  text x := String.ofList (Format.single.text x.toBits.toNat)
  isFinite x := Format.single.isFinite x.toBits.toNat

end DeskCalc.Number
