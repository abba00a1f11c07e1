import DeskCalc.Proofs.Number.Stored
import DeskCalc.Token.Lexer

/-! # Number literals

A numeral is a literal of the grammar. It is always read, as the number nearest to what it says, and never as something
else than a number from zero up to infinity.

* `isNumeral_iff`: the numerals are the literals. `decidableLiteral`: so it can be decided what a literal is.
* `isNaNBits_of_le`, `toBits_double`, `toBits_single`: up to infinity, a word is the word of a number.
* `RoundsLiterals`: a number type reads every literal as the number nearest to it. `roundsLiterals_double`,
  `roundsLiterals_single`: the two number types do.
* `ReadsLiterals`: every numeral is read as a number of a kind. `readsLiterals_double`, `readsLiterals_single`: as one
  that has no sign and is no NaN.
-/

namespace DeskCalc.Number
open DeskCalc.Text
set_option autoImplicit false

/-! ## Numerals -/

/-- Digits, and behind them nothing, or a point and digits again. -/
theorem exists_parts {cs : List Char} (hchars : ∀ c ∈ cs, c = '.' ∨ c.isDigit = true) (hpoints : cs.count '.' < 2) :
    ∃ whole rest, cs = whole ++ rest ∧ Digits whole ∧ (rest = [] ∨ ∃ decimals, rest = '.' :: decimals ∧ Digits decimals)
    := by
  obtain ⟨hcut, hwhole, hstop⟩ := takeWhile_dropWhile_iff.mp ⟨rfl, rfl⟩
  generalize cs.takeWhile Char.isDigit = whole at hcut hwhole
  generalize cs.dropWhile Char.isDigit = rest at hcut hstop
  refine ⟨whole, rest, hcut, hwhole, ?_⟩
  cases rest with
  | nil => exact .inl rfl
  | cons c decimals =>
    have hc : c = '.' := by
      have hdigit : c.isDigit = false := hstop c rfl
      exact (hchars c (by simp [hcut])).resolve_right (by simp [hdigit])
    have hnone : '.' ∉ decimals := by
      rw [hcut, hc, List.count_append, List.count_cons_self] at hpoints
      exact List.count_eq_zero.mp (by omega)
    refine .inr ⟨decimals, by rw [hc], fun d hd => ?_⟩
    exact (hchars d (by simp [hcut, hd])).resolve_left fun h => hnone (h ▸ hd)

theorem exists_literal {whole rest : List Char} (hwhole : Digits whole)
    (hrest : rest = [] ∨ ∃ decimals, rest = '.' :: decimals ∧ Digits decimals)
    (hdigit : ∃ c ∈ whole ++ rest, c.isDigit = true) : ∃ d, Literal (whole ++ rest) d := by
  obtain ⟨c, hc, hdigit⟩ := hdigit
  rcases hrest with rfl | ⟨decimals, rfl, hdecimals⟩
  · rw [List.append_nil] at hc ⊢
    exact ⟨_, .whole hwhole (List.ne_nil_of_mem hc)⟩
  · have hpoint : c ≠ '.' := by
      rintro rfl
      cases hdigit
    have hmem : c ∈ whole ++ decimals := by simpa [hpoint] using hc
    exact ⟨_, .point hwhole hdecimals (List.ne_nil_of_mem hmem)⟩

/-- Counting points and digits finds the literals, and nothing else. -/
theorem isNumeral_iff {cs : List Char} : isNumeral cs = true ↔ ∃ d, Literal cs d := by
  simp only [isNumeral, Bool.and_eq_true, List.all_eq_true, List.any_eq_true, Bool.or_eq_true, beq_iff_eq,
    decide_eq_true_eq]
  constructor
  · rintro ⟨⟨hchars, hdigit⟩, hpoints⟩
    obtain ⟨whole, rest, rfl, hwhole, hrest⟩ := exists_parts hchars hpoints
    exact exists_literal hwhole hrest hdigit
  · rintro ⟨d, h⟩
    exact ⟨⟨fun _ => h.mem, h.exists_isDigit⟩, h.count_point_lt⟩

/-- Counting decides the grammar. -/
instance decidableLiteral (cs : List Char) : Decidable (∃ d, Literal cs d) := decidable_of_iff _ isNumeral_iff

example : isNumeral "5.".toList = true ∧ isNumeral ".5".toList = true ∧ isNumeral ".".toList = false ∧
    isNumeral "1.2.3".toList = false ∧ isNumeral "1e5".toList = false := by
  decide

/-! ## Words of numbers -/

/-- Up to infinity every word stands for a number. -/
theorem isNaNBits_of_le {spec : Float.Model.Format} {b : BitVec spec.numBits}
    (h : b.toNat ≤ (2 ^ spec.exponentBits - 1) * 2 ^ spec.mantissaBitsWithoutImplicit) :
    Float.Model.UnpackedFloat.isNaNBits b = false := by
  rw [Float.Model.UnpackedFloat.isNaNBits, decide_eq_false_iff_not, not_and, not_not,
    Float.Model.UnpackedFloat.unpackExponent_def, Float.Model.UnpackedFloat.unpackMantissa_def]
  intro hexponent
  have hones := congrArg BitVec.toNat hexponent
  rw [BitVec.extractLsb'_toNat, Nat.shiftRight_eq_div_pow, BitVec.neg_one_eq_allOnes, BitVec.toNat_allOnes] at hones
  have hdiv : 2 ^ spec.exponentBits - 1 ≤ b.toNat / 2 ^ spec.mantissaBitsWithoutImplicit := hones ▸ Nat.mod_le _ _
  have hge := (Nat.le_div_iff_mul_le (Nat.two_pow_pos _)).mp hdiv
  apply BitVec.eq_of_toNat_eq
  rw [BitVec.extractLsb'_toNat, Nat.shiftRight_zero, Nat.le_antisymm h hge, Nat.mul_mod_left]
  rfl

theorem toBits_double {word : Nat} (h : word ≤ Format.double.infinity) :
    (Float.ofBits word.toUInt64).toBits.toNat = word := by
  have hinfinity : Format.double.infinity < UInt64.size := by decide
  have hword : word.toUInt64.toNat = word := UInt64.toNat_ofNat_of_lt' (Nat.lt_of_le_of_lt h hinfinity)
  have hnan : @Float.Model.UnpackedFloat.isNaNBits .binary64 word.toUInt64.toBitVec = false :=
    isNaNBits_of_le (show word.toUInt64.toNat ≤ Format.double.infinity by rwa [hword])
  have hpack := @Float.Model.UnpackedFloat.pack_unpack .binary64 word.toUInt64.toBitVec (by decide)
  rw [hnan, if_neg Bool.false_ne_true] at hpack
  have hbits : (Float.ofBits word.toUInt64).toBits = word.toUInt64 := UInt64.toBitVec_inj.mp hpack
  rw [hbits, hword]

theorem toBits_single {word : Nat} (h : word ≤ Format.single.infinity) :
    (Float32.ofBits word.toUInt32).toBits.toNat = word := by
  have hinfinity : Format.single.infinity < UInt32.size := by decide
  have hword : word.toUInt32.toNat = word := UInt32.toNat_ofNat_of_lt' (Nat.lt_of_le_of_lt h hinfinity)
  have hnan : @Float.Model.UnpackedFloat.isNaNBits .binary32 word.toUInt32.toBitVec = false :=
    isNaNBits_of_le (show word.toUInt32.toNat ≤ Format.single.infinity by rwa [hword])
  have hpack := @Float.Model.UnpackedFloat.pack_unpack .binary32 word.toUInt32.toBitVec (by decide)
  rw [hnan, if_neg Bool.false_ne_true] at hpack
  have hbits : (Float32.ofBits word.toUInt32).toBits = word.toUInt32 := UInt32.toBitVec_inj.mp hpack
  rw [hbits, hword]

/-! ## Literals of a number type -/

/-- Every literal is read, and as the number nearest to what it says. -/
def RoundsLiterals (α : Type) [Scalar α] (f : Format) (word : α → Nat) : Prop :=
  ∀ cs d, Literal cs d → ∃ x : α, Scalar.read? cs = some x ∧ word x = f.nearestTo d.value

theorem roundsLiterals_of_word {α : Type} [Scalar α] {f : Format} (hreach : f.WithinReach) (word : α → Nat)
    (ofWord : Nat → α) (hread : ∀ cs, Scalar.read? cs = (f.read? cs).map ofWord)
    (hword : ∀ n ≤ f.infinity, word (ofWord n) = n) : RoundsLiterals α f word := by
  intro cs d h
  refine ⟨ofWord (f.nearestTo d.value), ?_, hword _ (f.nearestTo_le_infinity _)⟩
  rw [hread, hreach.read?_of_literal h, Option.map_some]

theorem roundsLiterals_double : RoundsLiterals Float .double fun x => x.toBits.toNat :=
  roundsLiterals_of_word Format.withinReach_double _ (fun n => Float.ofBits n.toUInt64) (fun _ => rfl)
    fun _ => toBits_double

theorem roundsLiterals_single : RoundsLiterals Float32 .single fun x => x.toBits.toNat :=
  roundsLiterals_of_word Format.withinReach_single _ (fun n => Float32.ofBits n.toUInt32) (fun _ => rfl)
    fun _ => toBits_single

/-- What is no number has a word above that of infinity. -/
def NaNAbove {α : Type} (f : Format) (word : α → Nat) (isNaN : α → Bool) : Prop :=
  ∀ x, isNaN x = true → f.infinity < word x

theorem nanAbove_double : NaNAbove .double (fun x : Float => x.toBits.toNat) Float.isNaN := by
  intro x hx
  rw [Float.isNaN_eq_decide_eq_nan, decide_eq_true_eq] at hx
  rw [hx]
  decide +kernel

theorem nanAbove_single : NaNAbove .single (fun x : Float32 => x.toBits.toNat) Float32.isNaN := by
  intro x hx
  rw [Float32.isNaN_eq_decide_eq_nan, decide_eq_true_eq] at hx
  rw [hx]
  decide +kernel

theorem NaNAbove.of_le {α : Type} {f : Format} {word : α → Nat} {isNaN : α → Bool} (hnan : NaNAbove f word isNaN)
    {x : α} (h : word x ≤ f.infinity) : isNaN x = false ∧ f.isNegative (word x) = false := by
  have hsign := f.infinity_lt_signBit
  constructor
  · rw [Bool.eq_false_iff]
    intro hmissing
    have hlarge := hnan _ hmissing
    omega
  · rw [Format.isNegative, decide_eq_false_iff_not]
    omega

/-- Every numeral is read, and as a number of a kind. -/
def ReadsLiterals (α : Type) [Scalar α] (kind : α → Prop) : Prop :=
  ∀ cs, isNumeral cs = true → ∃ x : α, Scalar.read? cs = some x ∧ kind x

theorem RoundsLiterals.readsLiterals {α : Type} [Scalar α] {f : Format} {word : α → Nat} {isNaN : α → Bool}
    (hround : RoundsLiterals α f word) (hnan : NaNAbove f word isNaN) :
    ReadsLiterals α fun x => isNaN x = false ∧ f.isNegative (word x) = false := by
  intro cs h
  obtain ⟨d, hliteral⟩ := isNumeral_iff.mp h
  obtain ⟨x, hx, hword⟩ := hround cs d hliteral
  exact ⟨x, hx, hnan.of_le (hword ▸ f.nearestTo_le_infinity _)⟩

theorem readsLiterals_double :
    ReadsLiterals Float fun x => x.isNaN = false ∧ Format.double.isNegative x.toBits.toNat = false :=
  roundsLiterals_double.readsLiterals nanAbove_double

theorem readsLiterals_single :
    ReadsLiterals Float32 fun x => x.isNaN = false ∧ Format.single.isNegative x.toBits.toNat = false :=
  roundsLiterals_single.readsLiterals nanAbove_single

end DeskCalc.Number
