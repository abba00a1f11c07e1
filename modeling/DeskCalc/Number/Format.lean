/-! # Binary floating formats

A format gives its numbers a precision and a range of exponents. A number is a word: a sign bit, above a magnitude
that grows with the number it stands for.

* `Format`: precision and exponent width; `Format.double` and `Format.single`.
* `Format.units`: the value of a finite magnitude, counted in units of the least positive number.
* `Format.nearest`: the magnitude nearest to a fraction; halfway the even one, past the largest infinity.
* `Format.nearestDecimal`: the magnitude nearest to `significand * 10 ^ exponent`.
-/

namespace DeskCalc.Number
set_option autoImplicit false

structure Format where
  precision : Nat
  exponentWidth : Nat
  deriving DecidableEq, Repr

namespace Format

def double : Format := ⟨53, 11⟩

def single : Format := ⟨24, 8⟩

/-- The number of magnitudes with one exponent. -/
def span (f : Format) : Nat := Nat.pow 2 (f.precision - 1)

/-- The least positive number is two to the power of minus this. -/
def scale (f : Format) : Nat := Nat.pow 2 (f.exponentWidth - 1) + f.precision - 3

/-- The magnitude of infinity. Those above it stand for no number. -/
def infinity (f : Format) : Nat := (Nat.pow 2 f.exponentWidth - 1) * f.span

/-- The word of minus zero. Words from it on are negative. -/
def signBit (f : Format) : Nat := Nat.pow 2 f.exponentWidth * f.span

def notANumber (f : Format) : Nat := f.infinity + f.span / 2

def magnitude (f : Format) (word : Nat) : Nat := word % f.signBit

def isNegative (f : Format) (word : Nat) : Bool := f.signBit ≤ word

def isFinite (f : Format) (word : Nat) : Bool := f.magnitude word < f.infinity

def signed (f : Format) (negative : Bool) (magnitude : Nat) : Nat :=
  if negative then f.signBit + magnitude else magnitude

/-! ## From magnitudes to values and back -/

def units (f : Format) (magnitude : Nat) : Nat :=
  if magnitude < f.span then magnitude
  else (f.span + magnitude % f.span) * Nat.pow 2 (magnitude / f.span - 1)

/-- The integer nearest to `num / den`; halfway, the even one. -/
def roundHalfEven (num den : Nat) : Nat :=
  let q := num / den
  let r := num % den
  if 2 * r < den then q else if den < 2 * r then q + 1 else q + q % 2

/-- Below `precision` digits the numbers are as dense as the units. From there on their last digit is dropped once
for each further digit of the value, and the rounded digits carry into the exponent by themselves. -/
def nearest (f : Format) (num den : Nat) : Nat :=
  let scaled := num * Nat.pow 2 f.scale
  let shift := (scaled / den).log2 - (f.precision - 1)
  min f.infinity (shift * f.span + roundHalfEven scaled (den * Nat.pow 2 shift))

/-- No format has a number with a decimal point further than this from its first digit. -/
def reach : Nat := 400

def nearestDecimal (f : Format) (significand : Nat) : Int → Nat
  | .ofNat k =>
    if significand = 0 then 0 else if reach < k then f.infinity else f.nearest (significand * Nat.pow 10 k) 1
  | .negSucc k =>
    if significand.log2 + reach < k then 0 else f.nearest significand (Nat.pow 10 (k + 1))

example : double.infinity = 0x7FF0000000000000 ∧ double.signBit = 0x8000000000000000 ∧ double.scale = 1074 := by
  decide +kernel

example : single.infinity = 0x7F800000 ∧ single.signBit = 0x80000000 ∧ single.scale = 149 := by decide +kernel

example : double.nearestDecimal 1 (-1) = 0x3FB999999999999A ∧ double.nearestDecimal 25 (-325) = 1 ∧
    double.nearestDecimal 18 307 = double.infinity ∧ single.nearestDecimal 1 (-1) = 0x3DCCCCCD := by
  decide +kernel

end Format

end DeskCalc.Number
