import DeskCalc.Proofs.Number.Nearest
import DeskCalc.Proofs.Token.Printing

/-! # Literals among the words of a text

A word that looks like a number can always be read as one. So no word is left to be a name because its reading fails,
and no name in a text looks like a number.

* `Token.exists_number`: the word that is a numeral is the token of a number.
* `Token.eq_of_ofWord_eq_name`: a name is the word it stands for.
* `Token.LiteralsAreNumbers`: what a literal becomes, and that no name is one.
* `Token.literals_are_numbers`: this for both number types, where the literals are the texts that count as numerals.
-/

namespace DeskCalc.Token
open DeskCalc.Number
set_option autoImplicit false

variable {α : Type} [Scalar α]

theorem exists_number {kind : α → Prop} (hread : ReadsLiterals α kind) {word : List Char} (h : isNumeral word = true) :
    ∃ x : α, Scalar.read? word = some x ∧ ofWord word = number x ∧ kind x := by
  obtain ⟨x, hx, hkind⟩ := hread word h
  exact ⟨x, hx, ofWord_eq_number_iff.mpr ⟨h, hx⟩, hkind⟩

theorem eq_of_ofWord_eq_name {word : List Char} {s : String} (h : (ofWord word : Token α) = name s) :
    s = String.ofList word := by
  have hnumber (x : α) : ofWord word ≠ number x := by
    rw [h]
    exact fun hx => nomatch hx
  have htext := text_ofWord hnumber
  rwa [h] at htext

theorem isNumeral_of_ofWord_eq_name {kind : α → Prop} (hread : ReadsLiterals α kind) {word : List Char} {s : String}
    (h : (ofWord word : Token α) = name s) : isNumeral word = false := by
  rw [Bool.eq_false_iff]
  intro hnumeral
  obtain ⟨x, -, hx, -⟩ := exists_number hread hnumeral
  rw [hx] at h
  cases h

/-- A literal is read as the number nearest to what it says, which is no NaN and has no sign, and it becomes the token
of this number. What becomes a name is no numeral, neither as a word nor in a text. -/
structure LiteralsAreNumbers (α : Type) [Scalar α] (f : Format) (bits : α → Nat) (isNaN : α → Bool) : Prop where
  number : ∀ cs d, Literal cs d → ∃ x : α, Scalar.read? cs = some x ∧ ofWord cs = Token.number x ∧
    f.IsNearest (bits x) d.value ∧ isNaN x = false ∧ f.isNegative (bits x) = false
  word : ∀ cs s, (ofWord cs : Token α) = name s → isNumeral cs = false
  text : ∀ line s, name s ∈ (ofText line : List (Token α)) → isNumeral s.toList = false

theorem literalsAreNumbers {f : Format} (hspan : f.span % 2 = 0) {bits : α → Nat} {isNaN : α → Bool}
    (hround : RoundsLiterals α f bits) (hnan : NaNAbove f bits isNaN) : LiteralsAreNumbers α f bits isNaN where
  number cs d h := by
    obtain ⟨x, hx, hbits⟩ := hround cs d h
    have hnumeral : isNumeral cs = true := isNumeral_iff.mpr ⟨d, h⟩
    have hnearest : f.IsNearest (bits x) d.value := hbits ▸ Format.isNearest_nearestTo hspan d.value_nonneg
    exact ⟨x, hx, ofWord_eq_number_iff.mpr ⟨hnumeral, hx⟩, hnearest, hnan.of_le hnearest.le_infinity⟩
  word _ _ h := isNumeral_of_ofWord_eq_name (hround.readsLiterals hnan) h
  text line s h := by
    obtain ⟨word, hword, -⟩ := exists_word_of_mem h
    rw [eq_of_ofWord_eq_name hword.symm, String.toList_ofList]
    exact isNumeral_of_ofWord_eq_name (hround.readsLiterals hnan) hword.symm

/-- Counting points and digits finds just the literals, and however long a literal is, both number types take it for a
number. -/
theorem literals_are_numbers :
    (∀ text : String, isNumeral text.toList = true ↔ ∃ d, Literal text.toList d) ∧
      LiteralsAreNumbers Float .double (fun x => x.toBits.toNat) Float.isNaN ∧
      LiteralsAreNumbers Float32 .single (fun x => x.toBits.toNat) Float32.isNaN :=
  ⟨fun _ => isNumeral_iff, literalsAreNumbers (by decide +kernel) roundsLiterals_double nanAbove_double,
    literalsAreNumbers (by decide +kernel) roundsLiterals_single nanAbove_single⟩

end DeskCalc.Token
