import DeskCalc.Number.Layout
import DeskCalc.Proofs.Number.Grammar
import DeskCalc.Proofs.Number.Rounding
import Mathlib.Tactic.FieldSimp
import Mathlib.Tactic.NormNum

/-! # What is printed is read back

The shortest digits of a magnitude are nearest to it, and a text that is written out says exactly the number that its
digits stand for.

* `Format.nearestTo_shortest`: the shortest digits say a number that the magnitude is nearest to.
* `Decimal.spells_text`: a text that is written out says its decimal.
* `Format.IsWrittenOut`: zero, and the numbers from one ten-thousandth up to ten quadrillions.
* `Format.IsWrittenOut.exists_literal`: the text of such a word is a literal that the word is nearest to.
* `Format.WithinReach.read?_of_literal`: a literal is read as the magnitude nearest to what it says.
* `Format.exists_mem_text`: the text of any other word is no row of digits with a point.
-/

namespace DeskCalc.Number
open DeskCalc.Text
set_option autoImplicit false

/-! ## The shortest digits -/

def Decimal.value (d : Decimal) : ℚ := d.digits * 10 ^ d.exponent

theorem Decimal.value_nonneg (d : Decimal) : 0 ≤ d.value :=
  mul_nonneg (Nat.cast_nonneg _) (zpow_pos (by decide) _).le

namespace Format

variable {f : Format}

theorem nearestTo_decimal {digits dropped : Nat} :
    f.nearestTo (Decimal.value ⟨digits, dropped - f.scale⟩) = f.nearest (digits * 10 ^ dropped) (10 ^ f.scale) := by
  have hvalue : Decimal.value ⟨digits, dropped - f.scale⟩ = (digits * 10 ^ dropped : Nat) / (10 ^ f.scale : Nat) := by
    rw [Decimal.value, zpow_sub₀ (by decide), zpow_natCast, zpow_natCast]
    push_cast
    rw [mul_div_assoc]
  rw [hvalue, nearestTo_div _ (Nat.pow_pos (by decide))]

theorem nearestTo_rounded {m count : Nat} {d : Decimal} (h : f.rounded? m count = some d) :
    f.nearestTo d.value = m := by
  simp only [rounded?] at h
  split at h
  · next hlow =>
    rw [Bool.and_eq_true] at hlow
    cases h
    rw [nearestTo_decimal]
    exact beq_iff_eq.mp hlow.1
  · split at h
    · next hhigh =>
      cases h
      rw [nearestTo_decimal]
      exact beq_iff_eq.mp hhigh
    · cases h

/-- All digits of a magnitude are its value. -/
theorem nearestTo_expansion {m : Nat} (h : m < f.infinity) :
    f.nearestTo (Decimal.value ⟨f.expansion m, -f.scale⟩) = m := by
  have hvalue : Decimal.value ⟨f.expansion m, -f.scale⟩ = f.units m / (2 ^ f.scale : Nat) := by
    have hten : (10 : ℚ) ^ f.scale = 2 ^ f.scale * 5 ^ f.scale := by
      rw [← mul_pow]
      norm_num
    have hexpansion : f.expansion m = f.units m * 5 ^ f.scale := rfl
    rw [Decimal.value, hexpansion, zpow_neg, zpow_natCast, hten]
    push_cast
    field_simp
  rw [hvalue, nearestTo_units h]

theorem nearestTo_shortest {m : Nat} (h : m < f.infinity) : f.nearestTo (f.shortest m).value = m := by
  rw [shortest]
  cases hfound : (List.range mostDigits).findSome? fun n => f.rounded? m (n + 1) with
  | none => exact nearestTo_expansion h
  | some d =>
    obtain ⟨_, _, hd⟩ := List.exists_of_findSome?_eq_some hfound
    exact nearestTo_rounded hd

/-- Only zero has no digits. -/
theorem digits_shortest_pos {m : Nat} (h : m < f.infinity) (hm : m ≠ 0) : 0 < (f.shortest m).digits := by
  rw [Nat.pos_iff_ne_zero]
  intro hzero
  have hvalue := nearestTo_shortest h
  rw [Decimal.value, hzero, Nat.cast_zero, zero_mul, nearestTo_zero] at hvalue
  exact hm hvalue.symm

end Format

/-! ## What digits say -/

namespace Numeral

theorem natural_eq (ds : List Char) : natural ds = Nat.ofDigitChars 10 ds 0 := rfl

theorem natural_append (ds es : List Char) : natural (ds ++ es) = natural ds * 10 ^ es.length + natural es := by
  rw [natural_eq, Nat.ofDigitChars_append, Nat.ofDigitChars_eq_ofDigitChars_zero, Nat.mul_comm]
  rfl

theorem natural_replicate (n : Nat) : natural (List.replicate n '0') = 0 := by
  rw [natural_eq, Nat.ofDigitChars_replicate_zero, Nat.mul_zero]

theorem natural_toDigits (n : Nat) : natural (Nat.toDigits 10 n) = n := Nat.ofDigitChars_ten_toDigits

end Numeral

theorem exists_withoutTrailingZeros (ds : List Char) :
    ∃ k, ds = withoutTrailingZeros ds ++ List.replicate k '0' := by
  obtain ⟨hcut, hzeros, _⟩ := takeWhile_dropWhile_iff.mp ⟨rfl, rfl⟩
  have hrun : ds.reverse.takeWhile (· == '0') = List.replicate (ds.reverse.takeWhile (· == '0')).length '0' :=
    List.eq_replicate_of_mem fun c hc => by simpa using hzeros c hc
  have hreverse := congrArg List.reverse hcut
  rw [List.reverse_append, List.reverse_reverse, hrun, List.reverse_replicate] at hreverse
  exact ⟨_, hreverse⟩

/-! ## Positional texts -/

/-- The text is `whole.decimals`, with a digit in front, and says the number `value`. -/
structure Spells (cs : List Char) (whole decimals : List Char) (value : ℚ) : Prop where
  text_eq : cs = whole ++ '.' :: decimals
  whole_digits : Digits whole
  decimals_digits : Digits decimals
  whole_ne_nil : whole ≠ []
  value_eq : Numeral.natural (whole ++ decimals) * (10 : ℚ) ^ (-(decimals.length : Int)) = value

theorem Spells.exists_literal {cs whole decimals : List Char} {value : ℚ} (h : Spells cs whole decimals value) :
    ∃ d, Literal cs d ∧ d.value = value := by
  rw [h.text_eq]
  exact ⟨_, .point h.whole_digits h.decimals_digits (List.append_ne_nil_of_left_ne_nil h.whole_ne_nil _), h.value_eq⟩

theorem Numeral.natural_zeros_append (n : Nat) (ds : List Char) :
    natural (List.replicate n '0' ++ ds) = natural ds := by
  rw [natural_append, natural_replicate, Nat.zero_mul, Nat.zero_add]

/-- The point stands before all digits, and zeros between. -/
theorem spells_before {ds : List Char} (hds : Digits ds) {places : Int} (h : places ≤ 0) :
    Spells ('0' :: '.' :: List.replicate (-places).toNat '0' ++ ds) ['0'] (List.replicate (-places).toNat '0' ++ ds)
      (Numeral.natural ds * 10 ^ (places - ds.length)) where
  text_eq := rfl
  whole_digits := by simp [Digits]
  decimals_digits := digits_append_iff.mpr ⟨digits_replicate _, hds⟩
  whole_ne_nil := by simp
  value_eq := by
    have hnatural := Numeral.natural_zeros_append ((-places).toNat + 1) ds
    rw [List.replicate_succ, List.cons_append] at hnatural
    have hexponent : -((List.replicate (-places).toNat '0' ++ ds).length : Int) = places - ds.length := by
      rw [List.length_append, List.length_replicate]
      omega
    rw [List.singleton_append, hnatural, hexponent]

/-- The point stands behind all digits, and zeros between. -/
theorem spells_behind {ds : List Char} (hds : Digits ds) {places : Int} (hpos : 0 < places)
    (h : ds.length ≤ places.toNat) :
    Spells (ds ++ List.replicate (places.toNat - ds.length) '0' ++ ['.', '0'])
      (ds ++ List.replicate (places.toNat - ds.length) '0') ['0']
      (Numeral.natural ds * 10 ^ (places - ds.length)) where
  text_eq := rfl
  whole_digits := digits_append_iff.mpr ⟨hds, digits_replicate _⟩
  decimals_digits := by simp [Digits]
  whole_ne_nil := by
    intro hnil
    have hlen := congrArg List.length hnil
    rw [List.length_append, List.length_replicate, List.length_nil] at hlen
    omega
  value_eq := by
    have hexponent : places - ds.length = (places.toNat - ds.length : Nat) := by omega
    have hzero : Numeral.natural ['0'] = 0 := rfl
    rw [Numeral.natural_append, Numeral.natural_append, Numeral.natural_replicate, hexponent, zpow_natCast,
      List.length_replicate, hzero]
    push_cast
    simp

/-- The point stands among the digits. -/
theorem spells_among {ds : List Char} (hds : Digits ds) {places : Int} (hpos : 0 < places)
    (h : places.toNat < ds.length) :
    Spells (ds.take places.toNat ++ '.' :: ds.drop places.toNat) (ds.take places.toNat) (ds.drop places.toNat)
      (Numeral.natural ds * 10 ^ (places - ds.length)) where
  text_eq := rfl
  whole_digits c hc := hds c (List.mem_of_mem_take hc)
  decimals_digits c hc := hds c (List.mem_of_mem_drop hc)
  whole_ne_nil := by
    intro hnil
    have hlen := congrArg List.length hnil
    rw [List.length_take, List.length_nil] at hlen
    omega
  value_eq := by
    have hexponent : -((ds.drop places.toNat).length : Int) = places - ds.length := by
      rw [List.length_drop]
      omega
    rw [List.take_append_drop, hexponent]

/-- Where the point stands in a row of digits is a power of ten. -/
theorem spells_positional {ds : List Char} (hds : Digits ds) (places : Int) :
    ∃ whole decimals, Spells (positional ds places) whole decimals
      (Numeral.natural ds * 10 ^ (places - ds.length)) := by
  rw [positional]
  split
  · next h => exact ⟨_, _, spells_before hds h⟩
  · next hpos =>
    split
    · next h => exact ⟨_, _, spells_behind hds (Int.not_le.mp hpos) h⟩
    · next h => exact ⟨_, _, spells_among hds (Int.not_le.mp hpos) (Nat.not_le.mp h)⟩

/-! ## Decimals -/

namespace Decimal

/-- How many digits stand before the point; if it is negative, how many zeros stand behind it. -/
def places (d : Decimal) : Int := d.exponent + (Nat.toDigits 10 d.digits).length

theorem value_lt (d : Decimal) : d.value < 10 ^ d.places := by
  have hdigits : d.digits < 10 ^ (Nat.toDigits 10 d.digits).length :=
    (Nat.length_toDigits_le_iff (by decide) Nat.length_toDigits_pos).mp le_rfl
  have hcast : (d.digits : ℚ) < 10 ^ (Nat.toDigits 10 d.digits).length := by exact_mod_cast hdigits
  rw [value, places, zpow_add₀ (by decide), zpow_natCast, mul_comm]
  exact mul_lt_mul_of_pos_left hcast (zpow_pos (by decide) _)

theorem le_value {d : Decimal} (h : 0 < d.digits) : 10 ^ (d.places - 1) ≤ d.value := by
  have hdigits : 10 ^ ((Nat.toDigits 10 d.digits).length - 1) ≤ d.digits := by
    rcases Nat.eq_zero_or_pos ((Nat.toDigits 10 d.digits).length - 1) with hone | hmore
    · rw [hone]
      exact h
    · rw [← Nat.not_lt, ← Nat.length_toDigits_le_iff (by decide) hmore]
      omega
  have hcast : (10 : ℚ) ^ ((Nat.toDigits 10 d.digits).length - 1) ≤ d.digits := by exact_mod_cast hdigits
  have hplaces : d.places - 1 = d.exponent + ((Nat.toDigits 10 d.digits).length - 1 : Nat) := by
    have := Nat.length_toDigits_pos (b := 10) (n := d.digits)
    rw [places]
    omega
  rw [value, hplaces, zpow_add₀ (by decide), zpow_natCast, mul_comm]
  exact mul_le_mul_of_nonneg_right hcast (zpow_pos (by decide) _).le

/-- The zeros at the end of the digits only tell where the point stands. -/
theorem natural_withoutTrailingZeros (d : Decimal) :
    Numeral.natural (withoutTrailingZeros (Nat.toDigits 10 d.digits)) *
      (10 : ℚ) ^ (d.places - (withoutTrailingZeros (Nat.toDigits 10 d.digits)).length) = d.value := by
  obtain ⟨k, hk⟩ := exists_withoutTrailingZeros (Nat.toDigits 10 d.digits)
  have hplaces : d.places - (withoutTrailingZeros (Nat.toDigits 10 d.digits)).length = k + d.exponent := by
    have hlength := congrArg List.length hk
    rw [List.length_append, List.length_replicate] at hlength
    rw [places]
    omega
  have hdigits : d.digits = Numeral.natural (withoutTrailingZeros (Nat.toDigits 10 d.digits)) * 10 ^ k := by
    have hnatural := congrArg Numeral.natural hk
    rwa [Numeral.natural_append, Numeral.natural_replicate, Numeral.natural_toDigits, List.length_replicate,
      Nat.add_zero] at hnatural
  rw [hplaces, zpow_add₀ (by decide), zpow_natCast, ← mul_assoc, value]
  conv => rhs; rw [hdigits]
  push_cast
  rfl

theorem spells_text {d : Decimal} (hlow : -4 ≤ d.places - 1) (hhigh : d.places - 1 ≤ 15) :
    ∃ whole decimals, Spells (d.text .standard) whole decimals d.value := by
  obtain ⟨k, hk⟩ := exists_withoutTrailingZeros (Nat.toDigits 10 d.digits)
  have hall := digits_toDigits d.digits
  rw [hk] at hall
  have h := spells_positional (digits_append_iff.mp hall).1 d.places
  rw [natural_withoutTrailingZeros] at h
  have htext : d.text .standard = positional (withoutTrailingZeros (Nat.toDigits 10 d.digits)) d.places :=
    if_pos ⟨hlow, hhigh⟩
  rwa [htext]

theorem mem_text_of_not_places {d : Decimal} (h : ¬(-4 ≤ d.places - 1 ∧ d.places - 1 ≤ 15)) :
    'e' ∈ d.text .standard := by
  have htext : d.text .standard = scientific (withoutTrailingZeros (Nat.toDigits 10 d.digits)) (d.places - 1) :=
    if_neg h
  rw [htext]
  unfold scientific
  exact List.mem_append_right _ (.head _)

end Decimal

/-! ## Words -/

namespace Format

variable {f : Format}

/-- A literal is read as the magnitude nearest to what it says, however many digits it has. -/
theorem WithinReach.read?_of_literal (hreach : f.WithinReach) {cs : List Char} {d : Decimal} (h : Literal cs d) :
    f.read? cs = some (f.nearestTo d.value) := by
  have hexponent : d.exponent ≤ reach := h.exponent_le.trans (Int.natCast_nonneg _)
  rw [read?, h.read?_eq, Option.map_some, ofNumeral, hreach.nearestDecimal_eq hexponent]
  rfl

/-- Zero, and the numbers from one ten-thousandth up to ten quadrillions. -/
def IsWrittenOut (f : Format) (word : Nat) : Prop :=
  word = 0 ∨ f.nearestDecimal 1 (-4) ≤ word ∧ word < f.nearestDecimal 1 16

instance (f : Format) (word : Nat) : Decidable (f.IsWrittenOut word) :=
  inferInstanceAs (Decidable (_ ∨ _ ∧ _))

theorem nearestDecimal_one {exponent : Int} (hlow : -4 ≤ exponent) (hhigh : exponent ≤ 16) :
    f.nearestDecimal 1 exponent = f.nearestTo (10 ^ exponent) := by
  rw [nearestDecimal_eq (by rw [reach]; omega) (by rw [reach]; omega), Nat.cast_one, one_mul]

/-- The format reaches beyond the numbers that are written out, and their bounds are written on the right sides. -/
structure HasRange (f : Format) : Prop where
  lowest_pos : 0 < f.nearestDecimal 1 (-4)
  lowest_places : (f.shortest (f.nearestDecimal 1 (-4))).places = -3
  highest_finite : f.nearestDecimal 1 16 < f.infinity
  highest_places : (f.shortest (f.nearestDecimal 1 16)).places = 17

theorem places_iff_isWrittenOut (hf : f.HasRange) {m : Nat} (hm : m ≠ 0) (hfinite : m < f.infinity) :
    -4 ≤ (f.shortest m).places - 1 ∧ (f.shortest m).places - 1 ≤ 15 ↔ f.IsWrittenOut m := by
  have hnearest := nearestTo_shortest hfinite
  have hlow := Decimal.le_value (digits_shortest_pos hfinite hm)
  have hhigh := (f.shortest m).value_lt
  have hnonneg := (f.shortest m).value_nonneg
  have hten : (1 : ℚ) ≤ 10 := by decide
  constructor
  · rintro ⟨hlowest, hhighest⟩
    refine .inr ⟨?_, ?_⟩
    · rw [nearestDecimal_one (by decide) (by decide), ← hnearest]
      exact nearestTo_mono (zpow_pos (by decide) _).le ((zpow_le_zpow_right₀ hten hlowest).trans hlow)
    · have hle : m ≤ f.nearestDecimal 1 16 := by
        rw [nearestDecimal_one (by decide) (by decide), ← hnearest]
        refine nearestTo_mono hnonneg (hhigh.le.trans (zpow_le_zpow_right₀ hten ?_))
        omega
      -- the bound itself is nearest to smaller numbers too, but its own digits lie above
      refine Nat.lt_of_le_of_ne hle ?_
      rintro rfl
      rw [hf.highest_places] at hhighest
      omega
  · rintro (rfl | ⟨hlowest, hhighest⟩)
    · exact absurd rfl hm
    constructor
    · by_contra hplaces
      have hle : m ≤ f.nearestDecimal 1 (-4) := by
        rw [nearestDecimal_one (by decide) (by decide), ← hnearest]
        refine nearestTo_mono hnonneg (hhigh.le.trans (zpow_le_zpow_right₀ hten ?_))
        omega
      rw [Nat.le_antisymm hle hlowest, hf.lowest_places] at hplaces
      omega
    · by_contra hplaces
      have hle : f.nearestDecimal 1 16 ≤ m := by
        rw [nearestDecimal_one (by decide) (by decide), ← hnearest]
        refine nearestTo_mono (zpow_pos (by decide) _).le (le_trans (zpow_le_zpow_right₀ hten ?_) hlow)
        omega
      exact absurd hhighest (Nat.not_lt.mpr hle)

theorem IsWrittenOut.lt_infinity (hf : f.HasRange) {word : Nat} (h : f.IsWrittenOut word) : word < f.infinity := by
  rcases h with rfl | ⟨_, h⟩
  · exact Nat.zero_lt_of_lt hf.highest_finite
  · exact h.trans hf.highest_finite

theorem text_of_lt {word : Nat} (h : word < f.infinity) : f.text word = f.magnitudeText word := by
  have hsign := h.trans f.infinity_lt_signBit
  have hmagnitude : f.magnitude word = word := Nat.mod_eq_of_lt hsign
  have hnumber : ¬f.infinity < word := Nat.not_lt.mpr h.le
  have hnegative : ¬f.isNegative word = true := by
    rw [isNegative, decide_eq_true_eq, Nat.not_le]
    exact hsign
  rw [text, hmagnitude, if_neg hnumber, if_neg hnegative]

theorem text_of_finite {word : Nat} (h : word < f.infinity) (hne : word ≠ 0) :
    f.text word = (f.shortest word).text .standard := by
  rw [text_of_lt h, magnitudeText, if_neg hne, if_neg h.ne]

theorem text_zero (hf : f.HasRange) : f.text 0 = ['0', '.', '0'] :=
  text_of_lt (Nat.zero_lt_of_lt hf.highest_finite)

theorem IsWrittenOut.spells_text (hf : f.HasRange) {word : Nat} (h : f.IsWrittenOut word) :
    ∃ whole decimals value, Spells (f.text word) whole decimals value ∧ f.nearestTo value = word := by
  by_cases hne : word = 0
  · rw [hne, text_zero hf]
    have hzero : Numeral.natural (['0'] ++ ['0']) * (10 : ℚ) ^ (-(['0'].length : Int)) = 0 := by
      rw [show Numeral.natural (['0'] ++ ['0']) = 0 from rfl, Nat.cast_zero, zero_mul]
    exact ⟨['0'], ['0'], 0, ⟨rfl, by simp [Digits], by simp [Digits], by simp, hzero⟩, nearestTo_zero⟩
  · have hfinite := h.lt_infinity hf
    obtain ⟨hlow, hhigh⟩ := (places_iff_isWrittenOut hf hne hfinite).mpr h
    obtain ⟨whole, decimals, hspells⟩ := Decimal.spells_text hlow hhigh
    rw [← text_of_finite hfinite hne] at hspells
    exact ⟨whole, decimals, _, hspells, nearestTo_shortest hfinite⟩

theorem IsWrittenOut.exists_literal (hf : f.HasRange) {word : Nat} (h : f.IsWrittenOut word) :
    ∃ d, Literal (f.text word) d ∧ f.nearestTo d.value = word := by
  obtain ⟨whole, decimals, value, hspells, hvalue⟩ := h.spells_text hf
  obtain ⟨d, hliteral, rfl⟩ := hspells.exists_literal
  exact ⟨d, hliteral, hvalue⟩

/-- All other texts have a character that no positional text has. -/
theorem exists_mem_text (hf : f.HasRange) {word : Nat} (h : ¬f.IsWrittenOut word) :
    ∃ c ∈ f.text word, isBlank c = false ∧ c ≠ '.' ∧ c.isDigit = false := by
  rw [text]
  split
  · exact ⟨'N', .head _, by decide⟩
  · split
    · exact ⟨'-', .head _, by decide⟩
    · next hnumber hnegative =>
      have hsign : word < f.signBit := by
        rw [isNegative, decide_eq_true_eq, Nat.not_le] at hnegative
        exact hnegative
      have hmagnitude : f.magnitude word = word := Nat.mod_eq_of_lt hsign
      rw [hmagnitude] at hnumber ⊢
      have hne : word ≠ 0 := fun hzero => h (.inl hzero)
      rw [magnitudeText, if_neg hne]
      split
      · exact ⟨'i', .head _, by decide⟩
      · next hinfinity =>
        have hfinite : word < f.infinity := Nat.lt_of_le_of_ne (Nat.not_lt.mp hnumber) hinfinity
        rw [← places_iff_isWrittenOut hf hne hfinite] at h
        exact ⟨'e', Decimal.mem_text_of_not_places h, by decide⟩

theorem hasRange_double : double.HasRange := by
  constructor <;> decide +kernel

theorem hasRange_single : single.HasRange := by
  constructor <;> decide +kernel

end Format

end DeskCalc.Number
