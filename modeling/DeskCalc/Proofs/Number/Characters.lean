import DeskCalc.Number.Scalar
import DeskCalc.Proofs.Number.Printing

/-! # The characters of a number

* `isNumberChar`: digits, point, sign, the `e` of an exponent, and the letters of `inf` and `NaN`.
* `Decimal.numberText`, `Format.numberText`: a number is written with no others.
* `PlainText`: the same of a number type; `plainText_double` and `plainText_single` for the two that there are.
-/

namespace DeskCalc.Number
open DeskCalc.Text
set_option autoImplicit false

def isNumberChar (c : Char) : Bool := c.isDigit || "-.einfNa".toList.contains c

/-- Written with the characters of numbers. -/
def NumberText (cs : List Char) : Prop := cs.all isNumberChar = true

theorem numberText_iff {cs : List Char} : NumberText cs ↔ ∀ c ∈ cs, isNumberChar c = true := List.all_eq_true

theorem numberText_append_iff {cs ds : List Char} : NumberText (cs ++ ds) ↔ NumberText cs ∧ NumberText ds := by
  rw [NumberText, List.all_append, Bool.and_eq_true]
  rfl

theorem numberText_cons_iff {c : Char} {cs : List Char} :
    NumberText (c :: cs) ↔ isNumberChar c = true ∧ NumberText cs := by
  rw [NumberText, List.all_cons, Bool.and_eq_true]
  rfl

theorem Digits.numberText {ds : List Char} (h : Digits ds) : NumberText ds := by
  rw [numberText_iff]
  intro c hc
  rw [isNumberChar, h c hc, Bool.true_or]

theorem numberText_integer (n : Int) : NumberText (toString n).toList := by
  cases n with
  | ofNat n =>
    have htext : (toString (Int.ofNat n)).toList = Nat.toDigits 10 n := by
      show (Nat.repr n).toList = _
      simp [Nat.repr]
    rw [htext]
    exact (digits_toDigits n).numberText
  | negSucc n =>
    have htext : (toString (Int.negSucc n)).toList = '-' :: Nat.toDigits 10 (n + 1) := by
      show ("-" ++ Nat.repr (n + 1)).toList = _
      simp [Nat.repr]
    rw [htext, numberText_cons_iff]
    exact ⟨rfl, (digits_toDigits (n + 1)).numberText⟩

/-! ## Layouts -/

variable {ds : List Char}

theorem Digits.withoutTrailingZeros (h : Digits ds) : Digits (withoutTrailingZeros ds) := by
  obtain ⟨k, hds⟩ := exists_withoutTrailingZeros ds
  rw [hds, digits_append_iff] at h
  exact h.1

theorem numberText_positional (h : Digits ds) (places : Int) : NumberText (positional ds places) := by
  have hzeros (n : Nat) : NumberText (List.replicate n '0') := (digits_replicate n).numberText
  have htail : NumberText ['.', '0'] := rfl
  unfold positional
  split
  · rw [List.cons_append, List.cons_append, numberText_cons_iff, numberText_cons_iff, numberText_append_iff]
    exact ⟨rfl, rfl, hzeros _, h.numberText⟩
  · split
    · rw [numberText_append_iff, numberText_append_iff]
      exact ⟨⟨h.numberText, hzeros _⟩, htail⟩
    · rw [← List.take_append_drop places.toNat ds, digits_append_iff] at h
      rw [numberText_append_iff, numberText_cons_iff]
      exact ⟨h.1.numberText, rfl, h.2.numberText⟩

theorem numberText_scientific (h : Digits ds) (exponent : Int) : NumberText (scientific ds exponent) := by
  unfold scientific
  rw [numberText_append_iff, numberText_cons_iff]
  refine ⟨?_, rfl, numberText_integer exponent⟩
  match ds with
  | [] | [_] => exact h.numberText
  | d :: e :: more =>
    have htext := h.numberText
    rw [numberText_cons_iff] at htext
    exact numberText_cons_iff.mpr ⟨htext.1, numberText_cons_iff.mpr ⟨rfl, htext.2⟩⟩

namespace Decimal

theorem numberText (d : Decimal) (layout : Layout) : NumberText (d.text layout) := by
  have hdigits := (digits_toDigits d.digits).withoutTrailingZeros
  rw [text]
  split
  · exact numberText_positional hdigits _
  · exact numberText_scientific hdigits _

end Decimal

/-! ## Words -/

theorem Format.numberText (f : Format) (word : Nat) : NumberText (f.text word) := by
  have hmagnitude (magnitude : Nat) : NumberText (f.magnitudeText magnitude) := by
    rw [magnitudeText]
    split
    · rfl
    · split
      · rfl
      · exact Decimal.numberText _ _
  rw [text]
  split
  · rfl
  · split
    · exact numberText_cons_iff.mpr ⟨rfl, hmagnitude _⟩
    · exact hmagnitude _

/-- Numbers of this type are written with the characters of numbers. -/
def PlainText (α : Type) [Scalar α] : Prop := ∀ x : α, NumberText (Scalar.text x).toList

theorem plainText_double : PlainText Float := by
  intro x
  show NumberText (String.ofList (Format.double.text x.toBits.toNat)).toList
  rw [String.toList_ofList]
  exact Format.double.numberText _

theorem plainText_single : PlainText Float32 := by
  intro x
  show NumberText (String.ofList (Format.single.text x.toBits.toNat)).toList
  rw [String.toList_ofList]
  exact Format.single.numberText _

end DeskCalc.Number
