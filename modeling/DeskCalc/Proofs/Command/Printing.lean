import DeskCalc.Proofs.Command.Spelling
import DeskCalc.Proofs.Token.Printing

/-! # Reading printed formulas

A formula is printed as a line that defines it, if its numbers are printed as numerals.

* `Token.PrintedAsNumeral`: a number is printed as a numeral that is read as the number.
* `Token.ofText_unparse_of_printed`, `Token.free_unparse`: printed tokens are read as themselves, and stand on one line
  without an equals sign.
* `Command.read_text_of_tokens`: a text whose tokens are read as themselves defines its formula.
* `Command.read_text`: what a line defines is defined again by its text.
-/

namespace DeskCalc
open DeskCalc.Number DeskCalc.Text
set_option autoImplicit false

/-! ## Printed tokens -/

namespace Token

variable {α : Type} [Scalar α]

/-- The number is printed as a numeral, from which it is read again. -/
def PrintedAsNumeral (x : α) : Prop :=
  isNumeral (Scalar.text x).toList = true ∧ Scalar.read? (Scalar.text x).toList = some x

instance [DecidableEq α] : DecidablePred (PrintedAsNumeral : α → Prop) := fun _ => inferInstanceAs (Decidable (_ ∧ _))

theorem ofText_text_of_printed {cs : List Char} {t : Token α} (ht : t ∈ (ofChars cs : List (Token α)))
    (hprinted : ∀ x, t = number x → PrintedAsNumeral x) : ofText t.text = [t] := by
  by_cases hnumber : ∃ x, t = number x
  · obtain ⟨x, rfl⟩ := hnumber
    obtain ⟨hnumeral, hread⟩ := hprinted x rfl
    exact ofChars_numeral hnumeral hread
  · exact ofText_text ht fun x hx => hnumber ⟨x, hx⟩

theorem ofText_unparse_of_printed {cs : List Char}
    (hprinted : ∀ x : α, number x ∈ (ofChars cs : List (Token α)) → PrintedAsNumeral x) :
    (ofText (unparse (ofChars cs : List (Token α))) : List (Token α)) = ofChars cs := by
  rw [ofText_unparse]
  have hself : ∀ t ∈ (ofChars cs : List (Token α)), ofText t.text = [t] :=
    fun t ht => ofText_text_of_printed ht fun x hx => hprinted x (hx ▸ ht)
  rw [List.flatMap_congr hself, List.flatMap_singleton']

/-- Neither blanks nor equals signs get into the text of a token. -/
theorem free_text {cs : List Char} (hequals : '=' ∉ cs) {t : Token α} (ht : t ∈ (ofChars cs : List (Token α)))
    (hprinted : ∀ x, t = number x → PrintedAsNumeral x) : ∀ c ∈ t.text.toList, isBlank c = false ∧ c ≠ '=' := by
  by_cases hnumber : ∃ x, t = number x
  · obtain ⟨x, rfl⟩ := hnumber
    intro c hc
    have hnumeral := mem_of_isNumeral (hprinted x rfl).1 hc
    refine ⟨(cuts_eq_false_iff.mp (cuts_of_numeral hnumeral)).1, ?_⟩
    rintro rfl
    rcases hnumeral with h | h <;> cases h
  · obtain ⟨word, rfl, hmem, hword⟩ := exists_word_of_mem ht
    rw [text_ofWord fun x hx => hnumber ⟨x, hx⟩, String.toList_ofList]
    intro c hc
    refine ⟨?_, fun h => hequals (h ▸ hmem c hc)⟩
    rcases hword with ⟨d, hd, rfl⟩ | ⟨_, hcuts⟩
    · rw [List.mem_singleton.mp hc]
      exact isBlank_symbol hd
    · exact (cuts_eq_false_iff.mp (hcuts c hc)).1

theorem free_unparse {cs : List Char} (hequals : '=' ∉ cs)
    (hprinted : ∀ x : α, number x ∈ (ofChars cs : List (Token α)) → PrintedAsNumeral x) :
    ∀ c ∈ (unparse (ofChars cs : List (Token α))).toList, c ≠ '\n' ∧ c ≠ '=' := by
  rw [unparse, String.toList_intercalate, List.map_map]
  apply forall_mem_intercalate
  · simp
  · rw [List.forall_mem_map]
    intro t ht c hc
    obtain ⟨hblank, hfree⟩ := free_text hequals ht (fun x hx => hprinted x (hx ▸ ht)) c hc
    refine ⟨?_, hfree⟩
    rintro rfl
    cases hblank

end Token

/-! ## Printed formulas -/

namespace Command

variable {α : Type} [Scalar α]

theorem read_text_of_tokens {name : String} {ps : List (List Char)} {tokens : List (Token α)} (hname : FreeName name)
    (hps : ParameterList ps) (hne : tokens ≠ []) (hfree : ∀ c ∈ (Token.unparse tokens).toList, c ≠ '\n' ∧ c ≠ '=')
    (hself : Token.ofText (Token.unparse tokens) = tokens) :
    read (Formula.text ⟨name, ps.map String.ofList, tokens⟩) =
      .ok (some (.define ⟨name, ps.map String.ofList, tokens⟩)) := by
  have hblank : allBlank (Token.unparse tokens).toList = false := by
    rw [Bool.eq_false_iff, Ne, ← Token.ofChars_eq_nil_iff (α := α), ← Token.ofText, hself]
    exact hne
  have h := read_definition (α := α) hname hps hfree hblank
  rwa [hself] at h

theorem read_text {line : String} {f : Formula α} (h : read line = .ok (some (.define f)))
    (hprinted : f.EveryNumber Token.PrintedAsNumeral) : read f.text = .ok (some (.define f)) := by
  obtain ⟨name, params, body, ps, hline, _, hname, hequals, hblank, hps, rfl⟩ := read_eq_define_iff.mp h
  dsimp only [Formula.EveryNumber] at hprinted
  have hne : (Token.ofChars body : List (Token α)) ≠ [] := by
    rw [Ne, Token.ofChars_eq_nil_iff, hblank]
    exact Bool.false_ne_true
  have hfree := Token.free_unparse hequals hprinted
  have hself := Token.ofText_unparse_of_printed hprinted
  -- otherwise the tokens are computed when they are compared
  clear h
  generalize (Token.ofChars body : List (Token α)) = tokens at hne hfree hself
  exact read_text_of_tokens ⟨hline.identifier, hname⟩ hps hne hfree hself

end Command

end DeskCalc
