import DeskCalc.Proofs.Token.Literals

/-! # The tokens that a text can have

* `Token.WellFormed`: a name in which nothing is left to cut and that is no numeral, or a number of some kind.
* `Token.ofWord_run`: a run that is no numeral is a name.
* `Token.wellFormed_ofChars`: the tokens of a text without an equals sign are well-formed.
-/

namespace DeskCalc.Token
open DeskCalc.Number DeskCalc.Text
set_option autoImplicit false

variable {α : Type}

def WellFormed (kind : α → Prop) : Token α → Prop
  | name s => s ≠ "" ∧ (∀ c ∈ s.toList, isBlank c = false ∧ c ∉ symbols ∧ c ≠ '=') ∧ isNumeral s.toList = false
  | number x => kind x
  | operator _ | opening | closing => True

variable [Scalar α]

theorem wellFormed_symbol (kind : α → Prop) {c : Char} (h : c ∈ symbols) : (ofWord [c]).WellFormed kind := by
  simp only [symbols, List.mem_cons, List.not_mem_nil, or_false] at h
  rcases h with rfl | rfl | rfl | rfl | rfl | rfl <;> trivial

theorem ofWord_run {word : List Char} (hcuts : ∀ c ∈ word, cuts c = false) (h : isNumeral word = false) :
    (ofWord word : Token α) = name (String.ofList word) := by
  have hsymbol : (symbolOf? word : Option (Token α)) = none := by
    rw [Option.eq_none_iff_forall_ne_some]
    intro t ht
    obtain ⟨⟨c, hc, rfl⟩, _⟩ := symbolOf?_eq_some ht
    exact (cuts_eq_false_iff.mp (hcuts c (.head _))).2 hc
  have hnumber : (numberOf? word : Option (Token α)) = none := by
    rw [numberOf?, h]
    rfl
  rw [ofWord, hsymbol, hnumber]
  rfl

theorem wellFormed_run {kind : α → Prop} (hread : ReadsLiterals α kind) {word : List Char} (hne : word ≠ [])
    (hcuts : ∀ c ∈ word, cuts c = false) (hequals : '=' ∉ word) : (ofWord word).WellFormed kind := by
  cases hnumeral : isNumeral word with
  | true =>
    obtain ⟨x, -, hx, hkind⟩ := exists_number hread hnumeral
    rw [hx]
    exact hkind
  | false =>
    rw [ofWord_run hcuts hnumeral]
    refine ⟨by simpa using hne, ?_, by rwa [String.toList_ofList]⟩
    intro c hc
    rw [String.toList_ofList] at hc
    obtain ⟨hblank, hsymbol⟩ := cuts_eq_false_iff.mp (hcuts c hc)
    exact ⟨hblank, hsymbol, fun h => hequals (h ▸ hc)⟩

theorem wellFormed_ofChars {kind : α → Prop} (hread : ReadsLiterals α kind) {cs : List Char} (hequals : '=' ∉ cs) :
    ∀ t ∈ (ofChars cs : List (Token α)), t.WellFormed kind := by
  intro t ht
  obtain ⟨word, rfl, hmem, hword⟩ := exists_word_of_mem ht
  rcases hword with ⟨c, hc, rfl⟩ | ⟨hne, hcuts⟩
  · exact wellFormed_symbol kind hc
  · exact wellFormed_run hread hne hcuts fun h => hequals (hmem '=' h)

end DeskCalc.Token
