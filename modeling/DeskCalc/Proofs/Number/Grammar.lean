import DeskCalc.Number.Numeral
import DeskCalc.Number.Shortest
import DeskCalc.Proofs.Text.Words

/-! # The grammar of literals

A literal is a row of digits, or a point with digits on one side of it or on both.

* `Digits`: a row of digits, which may be empty.
* `Literal`: the literals, each with the decimal that it says.
* `Literal.mem`, `Literal.count_point_lt`, `Literal.exists_isDigit`: what literals consist of.
* `Literal.read?_eq`: a literal is read as its decimal, without a sign.
-/

namespace DeskCalc.Number
open DeskCalc.Text
set_option autoImplicit false

/-! ## Digits -/

def Digits (ds : List Char) : Prop := ∀ c ∈ ds, c.isDigit = true

theorem digits_append_iff {ds es : List Char} : Digits (ds ++ es) ↔ Digits ds ∧ Digits es := List.forall_mem_append

theorem digits_replicate (n : Nat) : Digits (List.replicate n '0') := by
  intro c hc
  rw [(List.mem_replicate.mp hc).2]
  rfl

theorem digits_toDigits (n : Nat) : Digits (Nat.toDigits 10 n) :=
  fun _ hc => Nat.isDigit_of_mem_toDigits (by decide) (by decide) hc

theorem Digits.count_point {ds : List Char} (h : Digits ds) : ds.count '.' = 0 := by
  refine List.count_eq_zero.mpr fun hmem => ?_
  cases h '.' hmem

/-- A row of digits ends where the text does not go on with a digit. -/
theorem Digits.span {ds rest : List Char} (h : Digits ds) (hrest : Stops Char.isDigit rest) :
    (ds ++ rest).takeWhile Char.isDigit = ds ∧ (ds ++ rest).dropWhile Char.isDigit = rest :=
  takeWhile_dropWhile_iff.mpr ⟨rfl, h, hrest⟩

/-! ## Literals -/

/-- There is one digit at least, but it may stand on either side of the point. -/
inductive Literal : List Char → Decimal → Prop where
  | whole {ds : List Char} (hdigits : Digits ds) (hne : ds ≠ []) : Literal ds ⟨Numeral.natural ds, 0⟩
  | point {ds es : List Char} (hwhole : Digits ds) (hdecimals : Digits es) (hne : ds ++ es ≠ []) :
    Literal (ds ++ '.' :: es) ⟨Numeral.natural (ds ++ es), -es.length⟩

namespace Literal

variable {cs : List Char} {d : Decimal}

theorem mem (h : Literal cs d) {c : Char} (hc : c ∈ cs) : c = '.' ∨ c.isDigit = true := by
  cases h with
  | whole hdigits _ => exact .inr (hdigits c hc)
  | point hwhole hdecimals _ =>
    rcases List.mem_append.mp hc with hc | hc
    · exact .inr (hwhole c hc)
    · rcases List.mem_cons.mp hc with rfl | hc
      · exact .inl rfl
      · exact .inr (hdecimals c hc)

theorem count_point_lt (h : Literal cs d) : cs.count '.' < 2 := by
  cases h with
  | whole hdigits _ =>
    rw [hdigits.count_point]
    exact Nat.two_pos
  | point hwhole hdecimals _ =>
    rw [List.count_append, List.count_cons_self, hwhole.count_point, hdecimals.count_point]
    exact Nat.one_lt_two

theorem exists_isDigit (h : Literal cs d) : ∃ c ∈ cs, c.isDigit = true := by
  cases h with
  | whole hdigits hne =>
    obtain ⟨c, hc⟩ := List.exists_mem_of_ne_nil _ hne
    exact ⟨c, hc, hdigits c hc⟩
  | point hwhole hdecimals hne =>
    obtain ⟨c, hc⟩ := List.exists_mem_of_ne_nil _ hne
    refine ⟨c, ?_, digits_append_iff.mpr ⟨hwhole, hdecimals⟩ c hc⟩
    rcases List.mem_append.mp hc with hc | hc
    · exact List.mem_append_left _ hc
    · exact List.mem_append_right _ (.tail _ hc)

theorem exponent_le (h : Literal cs d) : d.exponent ≤ 0 := by
  cases h with
  | whole => exact Int.le_refl 0
  | point => exact Int.neg_nonpos_of_nonneg (Int.natCast_nonneg _)

/-! ## Reading -/

theorem decimal?_eq (h : Literal cs d) (negative : Bool) :
    Numeral.decimal? negative cs = some (.decimal negative d.digits d.exponent) := by
  cases h with
  | whole hdigits hne =>
    obtain ⟨htake, hdrop⟩ := hdigits.span (stops_nil _)
    rw [List.append_nil] at htake hdrop
    simp [Numeral.decimal?, htake, hdrop, Numeral.fraction, hne, Numeral.exponent?]
  | @point ds es hwhole hdecimals hne =>
    obtain ⟨htake, hdrop⟩ := hwhole.span (stops_cons (c := '.') rfl es)
    obtain ⟨htake', hdrop'⟩ := hdecimals.span (stops_nil _)
    rw [List.append_nil] at htake' hdrop'
    have hfraction : Numeral.fraction ('.' :: es) = (es, []) := by rw [Numeral.fraction, htake', hdrop']
    rw [Ne, List.append_eq_nil_iff] at hne
    simp [Numeral.decimal?, htake, hdrop, hfraction, hne, Numeral.exponent?]

/-- No sign stands in front of a literal, and no exponent behind it. -/
theorem read?_eq (h : Literal cs d) : Numeral.read? cs = some (.decimal false d.digits d.exponent) := by
  have hunsigned : Numeral.unsigned? false cs = some (.decimal false d.digits d.exponent) := by
    rw [Numeral.unsigned?, h.decimal?_eq]
    rfl
  unfold Numeral.read?
  split
  · exact absurd (h.mem (.head _)) (by decide)
  · exact absurd (h.mem (.head _)) (by decide)
  · exact hunsigned

end Literal

end DeskCalc.Number
