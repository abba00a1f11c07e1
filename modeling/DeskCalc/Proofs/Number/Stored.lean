import DeskCalc.Number.Scalar
import DeskCalc.Proofs.Number.Printing
import Mathlib

/-! # Number types that are formats

* `StoredAs`: a number type is printed and read as the words of a format.
* `storedAs_double`, `storedAs_single`: the two number types of the calculator.
* `isFinite_double`, `isFinite_single`: which of their numbers are finite.
-/

namespace DeskCalc.Number
set_option autoImplicit false

structure StoredAs (α : Type) [Scalar α] (f : Format) (word : α → Nat) : Prop where
  hasRange : f.HasRange
  text_eq : ∀ x, Scalar.text x = String.ofList (f.text (word x))
  read?_word : ∀ cs x, f.read? cs = some (word x) → (Scalar.read? cs : Option α) = some x

theorem storedAs_double : StoredAs Float .double fun x => x.toBits.toNat where
  hasRange := Format.hasRange_double
  text_eq _ := rfl
  read?_word cs x h := by
    have hread : (Scalar.read? cs : Option Float) = (Format.double.read? cs).map fun n => Float.ofBits n.toUInt64 := rfl
    rw [hread, h, Option.map_some, Nat.toUInt64_eq, UInt64.ofNat_toNat, Float.ofBits_toBits]

theorem storedAs_single : StoredAs Float32 .single fun x => x.toBits.toNat where
  hasRange := Format.hasRange_single
  text_eq _ := rfl
  read?_word cs x h := by
    have hread : (Scalar.read? cs : Option Float32) = (Format.single.read? cs).map fun n => Float32.ofBits n.toUInt32 :=
      rfl
    rw [hread, h, Option.map_some, Nat.toUInt32_eq, UInt32.ofNat_toNat, Float32.ofBits_toBits]

/-! ## Finite numbers -/

/-- Infinity has only ones in its exponent, and so has what is no number. -/
theorem isFinite_unpack (spec : Float.Model.Format) (b : BitVec spec.numBits) :
    (Float.Model.UnpackedFloat.unpack spec b).isFinite = true ↔
      b.toNat % (2 ^ spec.exponentBits * 2 ^ spec.mantissaBitsWithoutImplicit) <
        (2 ^ spec.exponentBits - 1) * 2 ^ spec.mantissaBitsWithoutImplicit := by
  have hones : Float.Model.UnpackedFloat.unpackExponent b = -BitVec.ofNat spec.exponentBits 1 ↔
      b.toNat / 2 ^ spec.mantissaBitsWithoutImplicit % 2 ^ spec.exponentBits = 2 ^ spec.exponentBits - 1 := by
    rw [Float.Model.UnpackedFloat.unpackExponent_def, ← BitVec.toNat_inj, BitVec.extractLsb'_toNat,
      Nat.shiftRight_eq_div_pow, BitVec.neg_one_eq_allOnes, BitVec.toNat_allOnes]
  have hbelow := Nat.mod_lt (b.toNat / 2 ^ spec.mantissaBitsWithoutImplicit) (Nat.two_pow_pos spec.exponentBits)
  rw [← Nat.div_lt_iff_lt_mul (Nat.two_pow_pos _), Nat.mul_comm (2 ^ spec.exponentBits), Nat.mod_mul_right_div_self]
  trans Float.Model.UnpackedFloat.unpackExponent b ≠ -BitVec.ofNat spec.exponentBits 1
  · unfold Float.Model.UnpackedFloat.unpack
    dsimp only
    split
    · next h => split <;> exact iff_of_false Bool.false_ne_true (not_not.mpr h)
    · next h =>
      refine iff_of_true ?_ h
      split
      · split <;> rfl
      · rfl
  · rw [Ne, hones]
    omega

theorem isFinite_double (x : Float) : Scalar.isFinite x = x.isFinite := by
  rw [Bool.eq_iff_iff]
  exact decide_eq_true_iff.trans (isFinite_unpack .binary64 x.toBits.toBitVec).symm

theorem isFinite_single (x : Float32) : Scalar.isFinite x = x.isFinite := by
  rw [Bool.eq_iff_iff]
  exact decide_eq_true_iff.trans (isFinite_unpack .binary32 x.toBits.toBitVec).symm

end DeskCalc.Number
