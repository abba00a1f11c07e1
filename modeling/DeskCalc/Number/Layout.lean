import DeskCalc.Number.Shortest

/-! # The text of a number

* `Decimal.text`: positional with at least one decimal from 0.0001 up to 10^16, otherwise one digit before the point
  and an exponent.
* `Format.text`: the text of a word: sign, then the shortest digits; `inf`, and `NaN` without a sign.
-/

namespace DeskCalc.Number
set_option autoImplicit false

/-- The exponents of the first digit that are written positionally. -/
structure Layout where
  lowest : Int
  highest : Int
  deriving DecidableEq, Repr

/-- A number from one ten-thousandth up to ten quadrillions is written out. -/
def Layout.standard : Layout := ⟨-4, 15⟩

def withoutTrailingZeros (ds : List Char) : List Char := (ds.reverse.dropWhile (· == '0')).reverse

/-- Digits with a point after the first `places`, padded with zeros so that a digit stands on both sides. -/
def positional (ds : List Char) (places : Int) : List Char :=
  if places ≤ 0 then '0' :: '.' :: List.replicate (-places).toNat '0' ++ ds
  else if ds.length ≤ places.toNat then ds ++ List.replicate (places.toNat - ds.length) '0' ++ ['.', '0']
  else ds.take places.toNat ++ '.' :: ds.drop places.toNat

def scientific (ds : List Char) (exponent : Int) : List Char :=
  let mantissa := match ds with
    | d :: e :: more => d :: '.' :: e :: more
    | _ => ds
  mantissa ++ 'e' :: (toString exponent).toList

def Decimal.text (d : Decimal) (layout : Layout) : List Char :=
  let all := Nat.toDigits 10 d.digits
  let places := d.exponent + all.length
  let ds := withoutTrailingZeros all
  if layout.lowest ≤ places - 1 ∧ places - 1 ≤ layout.highest then positional ds places
  else scientific ds (places - 1)

def Format.magnitudeText (f : Format) (magnitude : Nat) : List Char :=
  if magnitude = 0 then "0.0".toList
  else if magnitude = f.infinity then "inf".toList
  else (f.shortest magnitude).text .standard

def Format.text (f : Format) (word : Nat) : List Char :=
  if f.infinity < f.magnitude word then "NaN".toList
  else if f.isNegative word then '-' :: f.magnitudeText (f.magnitude word)
  else f.magnitudeText (f.magnitude word)

example : (⟨15, -6⟩ : Decimal).text .standard = "1.5e-5".toList ∧
    (⟨15, -2⟩ : Decimal).text .standard = "0.15".toList ∧
    (⟨1, 15⟩ : Decimal).text .standard = "1000000000000000.0".toList ∧
    (⟨10, 15⟩ : Decimal).text .standard = "1e16".toList := by
  decide +kernel

end DeskCalc.Number
