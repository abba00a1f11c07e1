import DeskCalc.Proofs.Number.Rounding
import Mathlib.Data.Nat.Dist

/-! # The nearest number

Rounding drops digits, and how many depends on the size of the value. The magnitudes that have dropped as many, or more,
are multiples of one power of two, among which the nearest one is taken; all others are smaller than the value by so
much that none of them can be nearer.

* `Format.value`: the number of a magnitude. Infinity has one here too, the one that would follow the largest number.
* `Format.units_strictMono`: greater magnitudes have greater values.
* `Format.dist_roundHalfEven`, `Format.dist_unbounded`, `Format.dist_nearest`: no multiple, no magnitude at all, and
  none up to infinity is nearer.
* `Format.IsNearest`, `Format.isNearest_nearestTo`: the magnitude that a number is rounded to.
-/

namespace DeskCalc.Number.Format
set_option autoImplicit false

variable {f : Format}

/-! ## Integers -/

/-- No multiple is nearer than the rounded one, and if another is as near, the rounded one is even. -/
theorem dist_roundHalfEven (a : Nat) {d : Nat} (hd : 0 < d) (r : Nat) :
    Nat.dist (roundHalfEven a d * d) a ≤ Nat.dist (r * d) a ∧
      (Nat.dist (r * d) a = Nat.dist (roundHalfEven a d * d) a →
        r = roundHalfEven a d ∨ roundHalfEven a d % 2 = 0) := by
  have hdiv := Nat.div_add_mod' a d
  have hmod := Nat.mod_lt a hd
  have hmultiple : r * d + d ≤ a / d * d ∨ r = a / d ∨ r = a / d + 1 ∨ a / d * d + 2 * d ≤ r * d := by
    rcases Nat.lt_trichotomy r (a / d) with hlt | heq | hgt
    · exact .inl (Nat.succ_mul r d ▸ Nat.mul_le_mul_right d hlt)
    · exact .inr (.inl heq)
    · rcases Nat.eq_or_lt_of_le hgt with heq | hlt
      · exact .inr (.inr (.inl heq.symm))
      · refine .inr (.inr (.inr ?_))
        rw [← Nat.add_mul]
        exact Nat.mul_le_mul_right d hlt
  have hnext : (a / d + 1) * d = a / d * d + d := Nat.succ_mul _ _
  simp only [roundHalfEven, Nat.dist]
  rcases Nat.mod_two_eq_zero_or_one (a / d) with heven | hodd
  · simp only [heven, Nat.add_zero]
    rcases hmultiple with h | rfl | rfl | h <;> split_ifs <;> omega
  · simp only [hodd]
    rcases hmultiple with h | rfl | rfl | h <;> split_ifs <;> omega

/-! ## The values of magnitudes -/

def value (f : Format) (m : Nat) : ℚ := f.units m / (2 ^ f.scale : Nat)

theorem units_lt (m : Nat) : f.units m < f.span * 2 ^ (m / f.span - 1 + 1) := by
  rw [units_eq, Nat.pow_succ', ← Nat.mul_assoc]
  refine Nat.mul_lt_mul_of_pos_right ?_ (Nat.two_pow_pos _)
  have hspan_pos := f.span_pos
  have hm := Nat.lt_div_mul_add hspan_pos (a := m)
  have hspan : m / f.span * f.span ≤ (m / f.span - 1) * f.span + f.span := by
    rw [← Nat.succ_mul]
    exact Nat.mul_le_mul_right _ (by omega)
  omega

theorem le_units {m : Nat} (h : 0 < m / f.span - 1) : f.span * 2 ^ (m / f.span - 1) ≤ f.units m := by
  rw [units_eq]
  refine Nat.mul_le_mul_right _ ?_
  have hm := Nat.div_mul_le_self m f.span
  have hspan : (m / f.span - 1) * f.span + f.span = m / f.span * f.span := by
    rw [← Nat.succ_mul, Nat.succ_eq_add_one, Nat.sub_add_cancel (by omega)]
  omega

theorem units_strictMono (f : Format) : StrictMono f.units := by
  intro m n h
  rcases Nat.lt_or_eq_of_le (Nat.sub_le_sub_right (Nat.div_le_div_right (c := f.span) h.le) 1) with hlt | heq
  · calc f.units m < f.span * 2 ^ (m / f.span - 1 + 1) := units_lt m
      _ ≤ f.span * 2 ^ (n / f.span - 1) := Nat.mul_le_mul_left _ (Nat.pow_le_pow_right (by decide) hlt)
      _ ≤ f.units n := le_units (Nat.zero_lt_of_lt hlt)
  · rw [units_eq m, units_eq n, heq]
    refine Nat.mul_lt_mul_of_pos_right ?_ (Nat.two_pow_pos _)
    have hle : (n / f.span - 1) * f.span ≤ m := by
      rw [← heq]
      exact (Nat.mul_le_mul_right _ (Nat.sub_le _ _)).trans (Nat.div_mul_le_self m f.span)
    omega

theorem units_of_lt {t r : Nat} (hr : r < 2 * f.span) (ht : 0 < t → f.span ≤ r) :
    f.units (t * f.span + r) = r * 2 ^ t := by
  have hexponent : (t * f.span + r) / f.span - 1 = t := by
    rw [Nat.mul_comm, Nat.mul_add_div f.span_pos]
    rcases Nat.lt_or_ge r f.span with hlt | hge
    · rw [Nat.div_eq_of_lt hlt]
      omega
    · have hone : r / f.span = 1 := Nat.div_eq_of_lt_le (by omega) (by omega)
      rw [hone, Nat.add_sub_cancel]
  rw [units_eq, hexponent, Nat.add_sub_cancel_left]

/-- Digits and the number of dropped ones make a magnitude, also if there is one digit more after rounding up. -/
theorem units_of_le {t r : Nat} (hr : r ≤ 2 * f.span) (ht : 0 < t → f.span ≤ r) :
    f.units (t * f.span + r) = r * 2 ^ t := by
  rcases Nat.lt_or_eq_of_le hr with hlt | rfl
  · exact units_of_lt hlt ht
  · have hcarry : t * f.span + 2 * f.span = (t + 1) * f.span + f.span := by
      rw [← Nat.add_mul, ← Nat.succ_mul]
    have hspan := f.span_pos
    rw [hcarry, units_of_lt (by omega) (fun _ => Nat.le_refl _), Nat.pow_succ', ← Nat.mul_assoc, Nat.mul_comm 2]

/-- A magnitude with digits that would be dropped is smaller than all that have dropped some. -/
theorem exists_units_eq_or_lt (t n : Nat) : (∃ r, f.units n = r * 2 ^ t) ∨ 0 < t ∧ f.units n < f.span * 2 ^ t := by
  rcases Nat.lt_or_ge (n / f.span - 1) t with hlt | hge
  · refine .inr ⟨Nat.zero_lt_of_lt hlt, (units_lt n).trans_le ?_⟩
    exact Nat.mul_le_mul_left _ (Nat.pow_le_pow_right (by decide) hlt)
  · refine .inl ⟨(n - (n / f.span - 1) * f.span) * 2 ^ (n / f.span - 1 - t), ?_⟩
    rw [units_eq, Nat.mul_assoc, ← Nat.pow_add, Nat.sub_add_cancel hge]

/-! ## Distances -/

/-- The magnitude for `a / b` units, before infinity takes the place of those beyond it. -/
def unbounded (f : Format) (a b : Nat) : Nat :=
  f.shift (a / b) * f.span + roundHalfEven a (b * 2 ^ f.shift (a / b))

theorem units_unbounded (a b : Nat) :
    f.units (f.unbounded a b) = roundHalfEven a (b * 2 ^ f.shift (a / b)) * 2 ^ f.shift (a / b) :=
  units_of_le (roundHalfEven_shift_le a b) le_roundHalfEven_shift

theorem mul_span_mod (hspan : f.span % 2 = 0) (k : Nat) : k * f.span % 2 = 0 := by
  rw [Nat.mul_mod, hspan, Nat.mul_zero, Nat.zero_mod]

theorem dist_unbounded (hspan : f.span % 2 = 0) (a : Nat) {b : Nat} (hb : 0 < b) (n : Nat) :
    Nat.dist (f.units (f.unbounded a b) * b) a ≤ Nat.dist (f.units n * b) a ∧
      (Nat.dist (f.units n * b) a = Nat.dist (f.units (f.unbounded a b) * b) a →
        n = f.unbounded a b ∨ f.unbounded a b % 2 = 0) := by
  have hd : 0 < b * 2 ^ f.shift (a / b) := Nat.mul_pos hb (Nat.two_pow_pos _)
  have hassoc (r : Nat) : r * 2 ^ f.shift (a / b) * b = r * (b * 2 ^ f.shift (a / b)) := by
    rw [Nat.mul_assoc, Nat.mul_comm b]
  rcases exists_units_eq_or_lt (f.shift (a / b)) n with ⟨r, hr⟩ | ⟨hshift, hlt⟩
  · obtain ⟨hle, heven⟩ := dist_roundHalfEven a hd r
    rw [units_unbounded, hr, hassoc, hassoc]
    refine ⟨hle, fun h => ?_⟩
    rcases heven h with heq | heven
    · refine .inl (f.units_strictMono.injective ?_)
      rw [hr, heq, units_unbounded]
    · have hspans := mul_span_mod hspan (f.shift (a / b))
      rw [unbounded]
      omega
  · -- the least magnitude with dropped digits lies between this one and the value
    have hleast := (dist_roundHalfEven a hd f.span).1
    have hvalue : f.span * 2 ^ f.shift (a / b) * b ≤ a := (Nat.le_div_iff_mul_le hb).mp (span_mul_le hshift)
    have hbelow := Nat.mul_lt_mul_of_pos_right hlt hb
    rw [← hassoc, ← hassoc, ← units_unbounded] at hleast
    simp only [Nat.dist] at hleast ⊢
    omega

theorem dist_nearest (hspan : f.span % 2 = 0) (a : Nat) {b : Nat} (hb : 0 < b) {n : Nat} (hn : n ≤ f.infinity) :
    Nat.dist (f.units (f.nearest a b) * b) (a * 2 ^ f.scale) ≤ Nat.dist (f.units n * b) (a * 2 ^ f.scale) ∧
      (Nat.dist (f.units n * b) (a * 2 ^ f.scale) = Nat.dist (f.units (f.nearest a b) * b) (a * 2 ^ f.scale) →
        n = f.nearest a b ∨ f.nearest a b % 2 = 0) := by
  have hnearest : f.nearest a b = min f.infinity (f.unbounded (a * 2 ^ f.scale) b) := nearest_eq a b
  have hunbounded := dist_unbounded hspan (a * 2 ^ f.scale) hb
  rcases Nat.lt_or_ge f.infinity (f.unbounded (a * 2 ^ f.scale) b) with hgt | hle
  · -- a value that is nearer to what lies beyond infinity lies beyond infinity itself
    rw [hnearest, Nat.min_eq_left hgt.le]
    have hinfinity := (hunbounded f.infinity).1
    have hbeyond := Nat.mul_lt_mul_of_pos_right (f.units_strictMono hgt) hb
    have hbelow := Nat.mul_le_mul_right b (f.units_strictMono.monotone hn)
    simp only [Nat.dist] at hinfinity ⊢
    exact ⟨by omega, fun _ => .inr (mul_span_mod hspan _)⟩
  · rw [hnearest, Nat.min_eq_right hle]
    exact hunbounded n

/-! ## Nearest magnitudes -/

/-- No magnitude up to infinity is nearer, and if another is as near, this one is even. -/
structure IsNearest (f : Format) (m : Nat) (q : ℚ) : Prop where
  le_infinity : m ≤ f.infinity
  nearest : ∀ n ≤ f.infinity, |f.value m - q| ≤ |f.value n - q|
  even : ∀ n ≤ f.infinity, |f.value n - q| = |f.value m - q| → n = m ∨ m % 2 = 0

theorem abs_sub_eq_dist (x y : Nat) : |(x : ℚ) - y| = Nat.dist x y := by
  rcases Nat.le_total x y with h | h
  · rw [Nat.dist_eq_sub_of_le h, Nat.cast_sub h, abs_sub_comm, abs_of_nonneg (sub_nonneg.mpr (Nat.cast_le.mpr h))]
  · rw [Nat.dist_eq_sub_of_le_right h, Nat.cast_sub h, abs_of_nonneg (sub_nonneg.mpr (Nat.cast_le.mpr h))]

theorem abs_value_sub (m a : Nat) {b : Nat} (hb : 0 < b) :
    |f.value m - a / b| = Nat.dist (f.units m * b) (a * 2 ^ f.scale) / (2 ^ f.scale * b : Nat) := by
  have hscale : 0 < 2 ^ f.scale := Nat.two_pow_pos _
  have hfraction : f.value m - a / b =
      (((f.units m * b : Nat) : ℚ) - (a * 2 ^ f.scale : Nat)) / (2 ^ f.scale * b : Nat) := by
    rw [value, div_sub_div _ _ (Nat.cast_ne_zero.mpr hscale.ne') (Nat.cast_ne_zero.mpr hb.ne')]
    push_cast
    rw [mul_comm (a : ℚ)]
  rw [hfraction, abs_div, abs_sub_eq_dist, abs_of_pos (Nat.cast_pos.mpr (Nat.mul_pos hscale hb))]

theorem isNearest_nearest (hspan : f.span % 2 = 0) (a : Nat) {b : Nat} (hb : 0 < b) :
    f.IsNearest (f.nearest a b) (a / b) := by
  have hpos : (0 : ℚ) < (2 ^ f.scale * b : Nat) := Nat.cast_pos.mpr (Nat.mul_pos (Nat.two_pow_pos _) hb)
  refine ⟨Nat.min_le_left _ _, fun n hn => ?_, fun n hn h => (dist_nearest hspan a hb hn).2 ?_⟩
  · rw [abs_value_sub _ _ hb, abs_value_sub _ _ hb, div_le_div_iff_of_pos_right hpos, Nat.cast_le]
    exact (dist_nearest hspan a hb hn).1
  · rwa [abs_value_sub _ _ hb, abs_value_sub _ _ hb, div_left_inj' hpos.ne', Nat.cast_inj] at h

/-- Any number that is not negative. -/
theorem isNearest_nearestTo (hspan : f.span % 2 = 0) {q : ℚ} (hq : 0 ≤ q) : f.IsNearest (f.nearestTo q) q := by
  have hfraction : (q.num.toNat : ℚ) / q.den = q := by
    have hnum : ((q.num.toNat : Int) : ℚ) = q.num := by rw [Int.toNat_of_nonneg (Rat.num_nonneg.mpr hq)]
    rw [← Int.cast_natCast, hnum, Rat.num_div_den]
  have h := isNearest_nearest hspan q.num.toNat q.den_pos
  rwa [hfraction] at h

end DeskCalc.Number.Format
