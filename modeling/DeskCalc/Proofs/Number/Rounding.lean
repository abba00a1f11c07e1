import DeskCalc.Number.Format
import Mathlib.Algebra.Order.Field.Rat
import Mathlib.Data.Rat.Lemmas
import Mathlib.Tactic.Positivity
import Mathlib.Tactic.Zify

/-! # Rounding to a format

The magnitude nearest to a fraction depends on the value of the fraction only, and grows with it. Every finite magnitude
is the nearest one to its own value.

* `Format.nearest_mono`: greater values have greater magnitudes.
* `Format.nearestTo`: the magnitude nearest to a rational number; by `Format.nearestTo_div`, `nearest` computes it.
* `Format.nearestTo_units`: a finite magnitude is nearest to its value.
* `Format.nearestDecimal_eq`: what is nearest to a decimal within reach.
* `Format.WithinReach.nearestDecimal_eq`: the same of smaller decimals too, if no number is as small as these.
-/

namespace DeskCalc.Number.Format
set_option autoImplicit false

/-! ## Integers -/

theorem le_roundHalfEven (a b : Nat) : a / b ≤ roundHalfEven a b := by
  simp only [roundHalfEven]
  split
  · exact le_refl _
  · split <;> omega

theorem roundHalfEven_le (a b : Nat) : roundHalfEven a b ≤ a / b + 1 := by
  simp only [roundHalfEven]
  split
  · omega
  · split <;> omega

theorem div_le_div_of_cross {a b c d : Nat} (hb : 0 < b) (hd : 0 < d) (h : a * d ≤ c * b) : a / b ≤ c / d := by
  rw [Nat.le_div_iff_mul_le hd]
  refine Nat.le_of_mul_le_mul_right ?_ hb
  calc a / b * d * b = a / b * b * d := Nat.mul_right_comm _ _ _
    _ ≤ a * d := Nat.mul_le_mul_right d (Nat.div_mul_le_self a b)
    _ ≤ c * b := h

/-- With equal quotients, the remainders compare as the fractions do. -/
theorem mod_cross {a b c d : Nat} (h : a * d ≤ c * b) (hq : a / b = c / d) : a % b * d ≤ c % d * b := by
  have ha : a * d = b * (a / b) * d + a % b * d := by rw [← Nat.add_mul, Nat.div_add_mod]
  have hc : c * b = d * (c / d) * b + c % d * b := by rw [← Nat.add_mul, Nat.div_add_mod]
  have hquot : b * (a / b) * d = d * (c / d) * b := by
    rw [hq, Nat.mul_comm d, Nat.mul_comm b, Nat.mul_right_comm]
  omega

theorem roundHalfEven_mono {a b c d : Nat} (hb : 0 < b) (hd : 0 < d) (h : a * d ≤ c * b) :
    roundHalfEven a b ≤ roundHalfEven c d := by
  rcases Nat.lt_or_eq_of_le (div_le_div_of_cross hb hd h) with hq | hq
  · exact (roundHalfEven_le a b).trans (le_trans hq (le_roundHalfEven c d))
  · have hr := mod_cross h hq
    -- a remainder of half or more of the divisor on the left is one on the right
    have hhalf : b ≤ 2 * (a % b) → d ≤ 2 * (c % d) := by
      intro hle
      refine Nat.le_of_mul_le_mul_left ?_ hb
      have := Nat.mul_le_mul_right d hle
      calc b * d ≤ 2 * (a % b) * d := this
        _ = 2 * (a % b * d) := Nat.mul_assoc _ _ _
        _ ≤ 2 * (c % d * b) := Nat.mul_le_mul_left 2 hr
        _ = b * (2 * (c % d)) := by rw [← Nat.mul_assoc, Nat.mul_comm]
    have hmore : b < 2 * (a % b) → d < 2 * (c % d) := by
      intro hlt
      refine Nat.lt_of_mul_lt_mul_left (a := b) ?_
      have := Nat.mul_lt_mul_of_pos_right hlt hd
      calc b * d < 2 * (a % b) * d := this
        _ = 2 * (a % b * d) := Nat.mul_assoc _ _ _
        _ ≤ 2 * (c % d * b) := Nat.mul_le_mul_left 2 hr
        _ = b * (2 * (c % d)) := by rw [← Nat.mul_assoc, Nat.mul_comm]
    simp only [roundHalfEven]
    rw [hq]
    split <;> split <;> (try split) <;> (try split) <;> omega

theorem roundHalfEven_mul (n : Nat) {d : Nat} (hd : 0 < d) : roundHalfEven (n * d) d = n := by
  simp [roundHalfEven, hd]

/-! ## Fractions -/

variable {f : Format}

theorem span_pos (f : Format) : 0 < f.span := Nat.two_pow_pos _

theorem infinity_lt_signBit (f : Format) : f.infinity < f.signBit :=
  Nat.mul_lt_mul_of_pos_right (Nat.sub_lt (Nat.two_pow_pos _) Nat.one_pos) f.span_pos

/-- By how many digits a scaled value is shortened. -/
def shift (f : Format) (scaled : Nat) : Nat := scaled.log2 - (f.precision - 1)

theorem nearest_eq (a b : Nat) : f.nearest a b = min f.infinity (f.shift (a * 2 ^ f.scale / b) * f.span +
    roundHalfEven (a * 2 ^ f.scale) (b * 2 ^ f.shift (a * 2 ^ f.scale / b))) := rfl

theorem log2_mono {m n : Nat} (h : m ≤ n) : m.log2 ≤ n.log2 := by
  rcases Nat.eq_zero_or_pos m with rfl | hm
  · exact Nat.zero_le _
  · rw [Nat.le_log2 (by omega)]
    exact (Nat.log2_self_le (by omega)).trans h

/-- A shortened value has at most `precision` digits, rounding may add one unit to them. -/
theorem roundHalfEven_shift_le (a b : Nat) : roundHalfEven a (b * 2 ^ f.shift (a / b)) ≤ 2 * f.span := by
  have hlog : a / b < 2 ^ (f.precision - 1 + 1 + f.shift (a / b)) := by
    refine Nat.lt_log2_self.trans_le (Nat.pow_le_pow_right (by decide) ?_)
    rw [shift]
    omega
  have hquot : a / (b * 2 ^ f.shift (a / b)) < 2 ^ (f.precision - 1 + 1) := by
    rw [← Nat.div_div_eq_div_mul, Nat.div_lt_iff_lt_mul (Nat.two_pow_pos _), ← Nat.pow_add]
    exact hlog
  have hspan : 2 * f.span = 2 ^ (f.precision - 1 + 1) := by
    rw [Nat.pow_succ, Nat.mul_comm]
    rfl
  have := roundHalfEven_le a (b * 2 ^ f.shift (a / b))
  omega

theorem span_mul_le {a b : Nat} (h : 0 < f.shift (a / b)) : f.span * 2 ^ f.shift (a / b) ≤ a / b := by
  have hlog : (a / b).log2 = f.precision - 1 + f.shift (a / b) := by
    rw [shift] at h ⊢
    omega
  have hne : a / b ≠ 0 := by
    intro hzero
    rw [shift, hzero, Nat.log2_zero] at h
    omega
  calc f.span * 2 ^ f.shift (a / b) = 2 ^ (f.precision - 1 + f.shift (a / b)) := (Nat.pow_add _ _ _).symm
    _ ≤ a / b := hlog ▸ Nat.log2_self_le hne

/-- If it had to be shortened, it has just as many. -/
theorem le_roundHalfEven_shift {a b : Nat} (h : 0 < f.shift (a / b)) :
    f.span ≤ roundHalfEven a (b * 2 ^ f.shift (a / b)) := by
  refine le_trans ?_ (le_roundHalfEven _ _)
  rw [← Nat.div_div_eq_div_mul, Nat.le_div_iff_mul_le (Nat.two_pow_pos _)]
  exact span_mul_le h

theorem nearest_mono {a b c d : Nat} (hb : 0 < b) (hd : 0 < d) (h : a * d ≤ c * b) : f.nearest a b ≤ f.nearest c d := by
  have hscaled : a * 2 ^ f.scale * d ≤ c * 2 ^ f.scale * b := by
    rw [Nat.mul_right_comm a, Nat.mul_right_comm c]
    exact Nat.mul_le_mul_right _ h
  rw [nearest_eq, nearest_eq]
  generalize a * 2 ^ f.scale = a at hscaled ⊢
  generalize c * 2 ^ f.scale = c at hscaled ⊢
  have hshift : f.shift (a / b) ≤ f.shift (c / d) :=
    Nat.sub_le_sub_right (log2_mono (div_le_div_of_cross hb hd hscaled)) _
  refine min_le_min_left f.infinity ?_
  rcases Nat.lt_or_eq_of_le hshift with hlt | heq
  · have hlow := roundHalfEven_shift_le (f := f) a b
    have hhigh := le_roundHalfEven_shift (Nat.zero_lt_of_lt hlt)
    have hspans := Nat.mul_le_mul_right f.span (Nat.succ_le_of_lt hlt)
    rw [Nat.succ_mul] at hspans
    omega
  · rw [heq]
    refine Nat.add_le_add_left (roundHalfEven_mono (Nat.mul_pos hb (Nat.two_pow_pos _))
      (Nat.mul_pos hd (Nat.two_pow_pos _)) ?_) _
    rw [← Nat.mul_assoc, ← Nat.mul_assoc]
    exact Nat.mul_le_mul_right _ hscaled

/-! ## Rational numbers -/

/-- The magnitude nearest to a number that is not negative. -/
def nearestTo (f : Format) (q : ℚ) : Nat := f.nearest q.num.toNat q.den

theorem nearestTo_le_infinity (f : Format) (q : ℚ) : f.nearestTo q ≤ f.infinity := Nat.min_le_left _ _

theorem nearestTo_mono {p q : ℚ} (hp : 0 ≤ p) (h : p ≤ q) : f.nearestTo p ≤ f.nearestTo q := by
  refine nearest_mono p.den_pos q.den_pos ?_
  have hcross := (Rat.le_iff p q).mp h
  have hpnum := Rat.num_nonneg.mpr hp
  have hqnum := Rat.num_nonneg.mpr (hp.trans h)
  zify
  rw [Int.toNat_of_nonneg hpnum, Int.toNat_of_nonneg hqnum]
  exact hcross

theorem nearestTo_div (a : Nat) {b : Nat} (hb : 0 < b) : f.nearestTo (a / b) = f.nearest a b := by
  have hb' : (b : ℚ) ≠ 0 := Nat.cast_ne_zero.mpr hb.ne'
  have hnonneg : (0 : ℚ) ≤ a / b := by positivity
  have hnum := Rat.num_nonneg.mpr hnonneg
  -- numerator and denominator are those of the fraction in lowest terms
  have hcross : ((a / b : ℚ).num.toNat) * b = a * (a / b : ℚ).den := by
    have h : ((a / b : ℚ).num : ℚ) / (a / b : ℚ).den = a / b := Rat.num_div_den _
    rw [div_eq_div_iff (Nat.cast_ne_zero.mpr (Rat.den_ne_zero _)) hb'] at h
    zify
    rw [Int.toNat_of_nonneg hnum]
    exact_mod_cast h
  exact le_antisymm (nearest_mono (Rat.den_pos _) hb hcross.le) (nearest_mono hb (Rat.den_pos _) hcross.ge)

theorem nearestTo_zero : f.nearestTo 0 = 0 := by
  have h : f.nearestTo 0 = f.nearest 0 1 := rfl
  rw [h, nearest_eq]
  simp [shift, roundHalfEven]

/-! ## Magnitudes -/

/-- The exponent of a magnitude says how often its digits are doubled. -/
theorem units_eq (m : Nat) : f.units m = (m - (m / f.span - 1) * f.span) * 2 ^ (m / f.span - 1) := by
  rw [units]
  split
  · next h => simp [Nat.div_eq_of_lt h]
  · next h =>
    have hexponent : 0 < m / f.span := Nat.div_pos (Nat.le_of_not_lt h) f.span_pos
    have hm : m / f.span * f.span + m % f.span = m := Nat.div_add_mod' m f.span
    have hspan : (m / f.span - 1) * f.span + f.span = m / f.span * f.span := by
      rw [← Nat.succ_mul, Nat.succ_eq_add_one, Nat.sub_add_cancel hexponent]
    have hdigits : m - (m / f.span - 1) * f.span = f.span + m % f.span := by omega
    rw [hdigits]
    rfl

theorem shift_units (m : Nat) : f.shift (f.units m) = m / f.span - 1 := by
  rw [units]
  split
  · next h =>
    rw [Nat.div_eq_of_lt h, shift]
    rcases Nat.eq_zero_or_pos m with rfl | hm
    · rw [Nat.log2_zero, Nat.zero_sub]
    · have hlog : m.log2 < f.precision - 1 := (Nat.log2_lt (by omega)).mpr h
      omega
  · next h =>
    have hlow : f.span * 2 ^ (m / f.span - 1) ≤ (f.span + m % f.span) * 2 ^ (m / f.span - 1) :=
      Nat.mul_le_mul_right _ (Nat.le_add_right _ _)
    have hhigh : (f.span + m % f.span) * 2 ^ (m / f.span - 1) < f.span * 2 * 2 ^ (m / f.span - 1) := by
      refine Nat.mul_lt_mul_of_pos_right ?_ (Nat.two_pow_pos _)
      have := Nat.mod_lt m f.span_pos
      omega
    have hpos : 0 < f.span * 2 ^ (m / f.span - 1) := Nat.mul_pos f.span_pos (Nat.two_pow_pos _)
    have hlog : ((f.span + m % f.span) * 2 ^ (m / f.span - 1)).log2 = f.precision - 1 + (m / f.span - 1) := by
      refine (Nat.log2_eq_iff (by omega)).mpr ⟨?_, ?_⟩
      · rw [Nat.pow_add]
        exact hlow
      · rw [Nat.pow_succ, Nat.pow_add, Nat.mul_right_comm]
        exact hhigh
    rw [shift]
    exact (congrArg (· - (f.precision - 1)) hlog).trans (Nat.add_sub_cancel_left _ _)

theorem nearestTo_units {m : Nat} (h : m < f.infinity) : f.nearestTo (f.units m / (2 ^ f.scale : Nat)) = m := by
  have hscale : 0 < 2 ^ f.scale := Nat.two_pow_pos _
  have hround : roundHalfEven (f.units m * 2 ^ f.scale) (2 ^ f.scale * 2 ^ (m / f.span - 1)) =
      m - (m / f.span - 1) * f.span := by
    rw [units_eq, Nat.mul_assoc, Nat.mul_comm (2 ^ f.scale)]
    exact roundHalfEven_mul _ (Nat.mul_pos (Nat.two_pow_pos _) hscale)
  have hle : (m / f.span - 1) * f.span ≤ m :=
    (Nat.mul_le_mul_right _ (Nat.sub_le _ _)).trans (Nat.div_mul_le_self m f.span)
  rw [nearestTo_div _ hscale, nearest_eq, Nat.mul_div_cancel _ hscale, shift_units, hround]
  omega

/-! ## Decimals -/

theorem nearestTo_negSucc (significand k : Nat) :
    f.nearestTo (significand * 10 ^ Int.negSucc k) = f.nearest significand (10 ^ (k + 1)) := by
  have hvalue : (significand : ℚ) * 10 ^ Int.negSucc k = significand / (10 ^ (k + 1) : Nat) := by
    rw [zpow_negSucc, ← div_eq_mul_inv]
    push_cast
    rfl
  rw [hvalue, nearestTo_div _ (Nat.pow_pos (by decide))]

theorem nearestDecimal_eq {significand : Nat} {exponent : Int} (hlow : -exponent ≤ significand.log2 + reach + 1)
    (hhigh : exponent ≤ reach) :
    f.nearestDecimal significand exponent = f.nearestTo (significand * 10 ^ exponent) := by
  cases exponent with
  | ofNat k =>
    have hk : ¬reach < k := by
      have : (k : Int) ≤ reach := hhigh
      omega
    have hvalue : (significand : ℚ) * 10 ^ Int.ofNat k = (significand * 10 ^ k : Nat) / (1 : Nat) := by
      rw [Int.ofNat_eq_natCast, zpow_natCast]
      push_cast
      rw [div_one]
    rw [hvalue, nearestTo_div _ Nat.one_pos, nearestDecimal, if_neg hk]
    split
    · next hzero =>
      have h := f.nearestTo_zero
      rw [hzero, Nat.zero_mul, ← nearestTo_div 0 Nat.one_pos]
      simpa using h.symm
    · rfl
  | negSucc k =>
    have hk : ¬significand.log2 + reach < k := by omega
    rw [nearestTo_negSucc, nearestDecimal, if_neg hk]
    rfl

/-- What is no more than half of the least positive number is nearest to zero. -/
theorem nearest_eq_zero {a b : Nat} (h : 2 * (a * 2 ^ f.scale) ≤ b) : f.nearest a b = 0 := by
  rw [nearest_eq]
  generalize a * 2 ^ f.scale = a at h ⊢
  have hquot : a / b = 0 := by
    rcases Nat.eq_zero_or_pos a with rfl | hpos
    · exact Nat.zero_div b
    · exact Nat.div_eq_of_lt (by omega)
  have hround : roundHalfEven a b = 0 := by
    have hmod := Nat.mod_le a b
    simp only [roundHalfEven, hquot]
    split
    · rfl
    · rw [if_neg (by omega)]
  rw [hquot, shift, Nat.log2_zero, Nat.zero_sub, Nat.zero_mul, Nat.pow_zero, Nat.mul_one, hround, Nat.add_zero,
    Nat.min_zero]

/-- No number of the format is so small that it lies beyond the reach. -/
def WithinReach (f : Format) : Prop := 2 ^ f.scale ≤ 10 ^ reach

theorem withinReach_double : double.WithinReach := by
  rw [WithinReach]
  decide +kernel

theorem withinReach_single : single.WithinReach := by
  rw [WithinReach]
  decide +kernel

/-- What lies beyond the reach of the least numbers is nearest to zero. -/
theorem WithinReach.nearestDecimal_eq (h : f.WithinReach) {significand : Nat} {exponent : Int}
    (hhigh : exponent ≤ reach) :
    f.nearestDecimal significand exponent = f.nearestTo (significand * 10 ^ exponent) := by
  by_cases hlow : -exponent ≤ significand.log2 + reach + 1
  · exact Format.nearestDecimal_eq hlow hhigh
  obtain ⟨k, rfl⟩ : ∃ k, exponent = Int.negSucc k := Int.eq_negSucc_of_lt_zero (by omega)
  have hk : significand.log2 + reach < k := by omega
  have hsmall : 2 * (significand * 2 ^ f.scale) ≤ 10 ^ (k + 1) := by
    have hlog : 2 * significand ≤ 2 ^ (significand.log2 + 2) := by
      have := Nat.lt_log2_self (n := significand)
      rw [Nat.pow_succ]
      omega
    calc 2 * (significand * 2 ^ f.scale) = 2 * significand * 2 ^ f.scale := (Nat.mul_assoc _ _ _).symm
      _ ≤ 10 ^ (significand.log2 + 2) * 10 ^ reach :=
        Nat.mul_le_mul (hlog.trans (Nat.pow_le_pow_left (by decide) _)) h
      _ = 10 ^ (significand.log2 + 2 + reach) := (Nat.pow_add _ _ _).symm
      _ ≤ 10 ^ (k + 1) := Nat.pow_le_pow_right (by decide) (by omega)
  rw [nearestTo_negSucc, nearest_eq_zero hsmall, nearestDecimal, if_pos hk]

end DeskCalc.Number.Format
