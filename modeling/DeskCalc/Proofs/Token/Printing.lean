import DeskCalc.Proofs.Number.Literals
import DeskCalc.Proofs.Token.OnePass
import DeskCalc.Token.Printer

/-! # Reading printed tokens

Printed tokens are read one by one. Symbols and names are read as what they are, and so is a number if it is written
out; a number that is written with an exponent is not.

* `Token.ofText_unparse`: the tokens of printed tokens are those of their texts.
* `Token.text_ofWord`: a word that is no number is the text of its token.
* `Token.ofChars_numeral`: a numeral is read as one number.
* `Token.ofText_text_number_iff`: a number is read as itself if and only if it is written out.
* `Token.ofText_unparse_eq_iff`: the tokens of a text survive printing if and only if their numbers are written out.
-/

namespace DeskCalc
open DeskCalc.Number DeskCalc.Text
set_option autoImplicit false

namespace Token

variable {α : Type} [Scalar α]

/-! ## One by one -/

theorem ofChars_intercalate (texts : List (List Char)) :
    (ofChars ([' '].intercalate texts) : List (Token α)) = texts.flatMap ofChars := by
  induction texts with
  | nil => exact ofChars_nil
  | cons text texts ih =>
    cases texts with
    | nil => rw [List.intercalate_singleton, List.flatMap_cons, List.flatMap_nil, List.append_nil]
    | cons next texts =>
      have hspace : isBlank ' ' = true := rfl
      rw [List.intercalate_cons_cons, List.append_assoc, List.singleton_append, ofChars_append_blank hspace, ih,
        List.flatMap_cons (x := text)]

theorem ofText_unparse (ts : List (Token α)) :
    (ofText (unparse ts) : List (Token α)) = ts.flatMap fun t => ofText t.text := by
  rw [ofText, unparse, String.toList_intercalate, List.map_map]
  have hspace : " ".toList = [' '] := rfl
  rw [hspace, ofChars_intercalate, List.flatMap_map]
  rfl

theorem length_le_flatMap {β : Type} {f : β → List β} {ts : List β} (hne : ∀ t ∈ ts, f t ≠ []) :
    ts.length ≤ (ts.flatMap f).length := by
  induction ts with
  | nil => exact Nat.le_refl _
  | cons t ts ih =>
    have hpos := List.length_pos_of_ne_nil (hne t (.head _))
    have htail := ih fun u hu => hne u (.tail _ hu)
    rw [List.flatMap_cons, List.length_append, List.length_cons]
    omega

/-- Where every text has a token, none can have two. -/
theorem flatMap_eq_self_iff {β : Type} {f : β → List β} {ts : List β} (hne : ∀ t ∈ ts, f t ≠ []) :
    ts.flatMap f = ts ↔ ∀ t ∈ ts, f t = [t] := by
  constructor
  · intro h
    induction ts with
    | nil => exact fun _ h => nomatch h
    | cons t ts ih =>
      rw [List.flatMap_cons] at h
      -- the tail needs as many tokens as it has texts, so one is left for the head
      have hone : (f t).length = [t].length := by
        have hpos := List.length_pos_of_ne_nil (hne t (.head _))
        have htail := length_le_flatMap fun u hu => hne u (.tail _ hu)
        have hlen := congrArg List.length h
        rw [List.length_append, List.length_cons] at hlen
        rw [List.length_singleton]
        omega
      obtain ⟨ht, hts⟩ := List.append_inj (h.trans (List.singleton_append (x := t) (l := ts)).symm) hone
      intro u hu
      rcases List.mem_cons.mp hu with rfl | hu
      · exact ht
      · exact ih (fun u hu => hne u (.tail _ hu)) hts u hu
  · intro h
    have hmap := List.flatMap_congr (f := f) (g := fun t => [t]) h
    rw [hmap, List.flatMap_singleton']

/-! ## Words -/

/-- A symbol is an operator or a parenthesis. -/
theorem ofSymbol?_eq_some {c : Char} {t : Token α} (h : ofSymbol? c = some t) :
    c ∈ symbols ∧ t.text = String.ofList [c] ∧ ∀ x : α, t ≠ number x := by
  unfold ofSymbol? at h
  split at h
  · next hc =>
    cases h
    rw [hc]
    exact ⟨by decide, rfl, fun _ h => nomatch h⟩
  · split at h
    · next hc =>
      cases h
      rw [hc]
      exact ⟨by decide, rfl, fun _ h => nomatch h⟩
    · obtain ⟨op, hop, rfl⟩ := Option.map_eq_some_iff.mp h
      rw [Operator.ofSymbol?_eq_some_iff.mp hop]
      refine ⟨?_, rfl, fun _ h => nomatch h⟩
      cases op <;> decide

theorem symbolOf?_eq_some {word : List Char} {t : Token α} (h : symbolOf? word = some t) :
    (∃ c ∈ symbols, word = [c]) ∧ t.text = String.ofList word ∧ ∀ x : α, t ≠ number x := by
  unfold symbolOf? at h
  split at h
  · next c =>
    obtain ⟨hc, ht⟩ := ofSymbol?_eq_some h
    exact ⟨⟨c, hc, rfl⟩, ht⟩
  · cases h

theorem isDigit_symbol {c : Char} (h : c ∈ symbols) : c.isDigit = false := by
  simp only [symbols, List.mem_cons, List.not_mem_nil, or_false] at h
  rcases h with rfl | rfl | rfl | rfl | rfl | rfl <;> rfl

theorem isNumeral_symbol {c : Char} (h : c ∈ symbols) : isNumeral [c] = false := by
  simp [isNumeral, isDigit_symbol h]

theorem symbolOf?_of_isNumeral {word : List Char} (h : isNumeral word = true) :
    (symbolOf? word : Option (Token α)) = none := by
  cases hsymbol : (symbolOf? word : Option (Token α)) with
  | none => rfl
  | some t =>
    obtain ⟨⟨c, hc, rfl⟩, _⟩ := symbolOf?_eq_some hsymbol
    rw [isNumeral_symbol hc] at h
    cases h

theorem numberOf?_eq_some_iff {word : List Char} {t : Token α} :
    numberOf? word = some t ↔ isNumeral word = true ∧ ∃ x, Scalar.read? word = some x ∧ number x = t := by
  rw [numberOf?, Option.ite_none_right_eq_some, Option.map_eq_some_iff]

theorem ofWord_eq_number_iff {word : List Char} {x : α} :
    ofWord word = number x ↔ isNumeral word = true ∧ Scalar.read? word = some x := by
  rw [ofWord]
  constructor
  · intro h
    cases hsymbol : (symbolOf? word : Option (Token α)) with
    | some t =>
      rw [hsymbol] at h
      exact absurd h ((symbolOf?_eq_some hsymbol).2.2 x)
    | none =>
      rw [hsymbol, Option.none_or] at h
      cases hnumber : (numberOf? word : Option (Token α)) with
      | none =>
        rw [hnumber] at h
        cases h
      | some t =>
        obtain ⟨hnumeral, y, hread, rfl⟩ := numberOf?_eq_some_iff.mp hnumber
        rw [hnumber] at h
        cases h
        exact ⟨hnumeral, hread⟩
  · rintro ⟨hnumeral, hread⟩
    have hnumber : numberOf? word = some (number x) := numberOf?_eq_some_iff.mpr ⟨hnumeral, x, hread, rfl⟩
    rw [symbolOf?_of_isNumeral hnumeral, hnumber]
    rfl

/-- A word that is no number is the text of its token. -/
theorem text_ofWord {word : List Char} (h : ∀ x : α, ofWord word ≠ number x) :
    (ofWord word : Token α).text = String.ofList word := by
  cases hsymbol : (symbolOf? word : Option (Token α)) with
  | some t =>
    have hword : ofWord word = t := by
      rw [ofWord, hsymbol]
      rfl
    rw [hword]
    exact (symbolOf?_eq_some hsymbol).2.1
  | none =>
    cases hnumber : (numberOf? word : Option (Token α)) with
    | some t =>
      obtain ⟨hnumeral, x, hread, _⟩ := numberOf?_eq_some_iff.mp hnumber
      exact absurd (ofWord_eq_number_iff.mpr ⟨hnumeral, hread⟩) (h x)
    | none =>
      rw [ofWord, hsymbol, hnumber]
      rfl

/-! ## Tokens of a text -/

/-- What is no number is read as itself. -/
theorem ofText_text {cs : List Char} {t : Token α} (ht : t ∈ (ofChars cs : List (Token α)))
    (hnumber : ∀ x, t ≠ number x) : ofText t.text = [t] := by
  obtain ⟨word, rfl, _, hword⟩ := exists_word_of_mem ht
  rw [text_ofWord hnumber, ofText, String.toList_ofList]
  rcases hword with ⟨c, hc, rfl⟩ | ⟨hne, hcuts⟩
  · exact ofChars_symbol hc
  · exact ofChars_run hcuts hne

theorem cuts_of_numeral {c : Char} (h : c = '.' ∨ c.isDigit = true) : cuts c = false := by
  rcases h with rfl | h
  · decide
  · have hc : 48 ≤ c.toNat ∧ c.toNat ≤ 57 := by
      simpa [Char.isDigit, UInt32.le_iff_toNat_le] using h
    refine cuts_eq_false_iff.mpr ⟨isBlank_of_visible (by omega) (by omega), fun hsymbol => ?_⟩
    rw [isDigit_symbol hsymbol] at h
    cases h

theorem mem_of_isNumeral {cs : List Char} {c : Char} (h : isNumeral cs = true) (hc : c ∈ cs) :
    c = '.' ∨ c.isDigit = true := by
  obtain ⟨d, hliteral⟩ := isNumeral_iff.mp h
  exact hliteral.mem hc

/-- A numeral is one word. -/
theorem ofChars_numeral {cs : List Char} {x : α} (h : isNumeral cs = true) (hread : Scalar.read? cs = some x) :
    ofChars cs = [number x] := by
  have hne : cs ≠ [] := by
    rintro rfl
    cases h
  rw [ofChars_run (fun c hc => cuts_of_numeral (mem_of_isNumeral h hc)) hne, ofWord_eq_number_iff.mpr ⟨h, hread⟩]

/-- A text that is read as a number has only the characters of numerals. -/
theorem mem_numeral_of_ofChars_eq {cs : List Char} {x : α} {c : Char} (h : ofChars cs = [number x]) (hc : c ∈ cs)
    (hblank : isBlank c = false) : c = '.' ∨ c.isDigit = true := by
  rw [ofChars_eq_map, List.map_eq_singleton_iff] at h
  obtain ⟨word, hpieces, hword⟩ := h
  have hnumeral := (ofWord_eq_number_iff.mp hword).1
  have hmem := mem_flatten_pieces (.inr hc : c ∈ [] ∨ c ∈ cs) hblank
  rw [hpieces, List.flatten_singleton] at hmem
  exact mem_of_isNumeral hnumeral hmem

/-! ## Printed numbers -/

/-- A number is read as itself if and only if it is written out. -/
theorem ofText_text_number_iff {f : Format} {word : α → Nat} (hreach : f.WithinReach) (hstored : StoredAs α f word)
    (x : α) :
    ofText (text (number x)) = [number x] ↔ f.IsWrittenOut (word x) := by
  have htext : (text (number x)).toList = f.text (word x) := by
    rw [text, hstored.text_eq, String.toList_ofList]
  rw [ofText, htext]
  constructor
  · intro h
    by_contra hout
    obtain ⟨c, hmem, hblank, hpoint, hdigit⟩ := Format.exists_mem_text hstored.hasRange hout
    rcases mem_numeral_of_ofChars_eq h hmem hblank with hc | hc
    · exact hpoint hc
    · exact absurd (hdigit.symm.trans hc) (by decide)
  · intro hout
    obtain ⟨d, hliteral, hvalue⟩ := hout.exists_literal hstored.hasRange
    have hread := hreach.read?_of_literal hliteral
    rw [hvalue] at hread
    exact ofChars_numeral (isNumeral_iff.mpr ⟨d, hliteral⟩) (hstored.read?_word _ x hread)

theorem ofText_text_number_ne_nil {f : Format} {word : α → Nat} (hreach : f.WithinReach) (hstored : StoredAs α f word)
    (x : α) : (ofText (text (number x)) : List (Token α)) ≠ [] := by
  by_cases hout : f.IsWrittenOut (word x)
  · rw [(ofText_text_number_iff hreach hstored x).mpr hout]
    exact List.cons_ne_nil _ _
  · obtain ⟨c, hmem, hblank, _⟩ := Format.exists_mem_text hstored.hasRange hout
    rw [ofText, text, hstored.text_eq, String.toList_ofList, Ne, ofChars_eq_nil_iff, allBlank_iff]
    intro hall
    exact absurd (hblank.symm.trans (hall c hmem)) (by decide)

/-! ## Printed texts -/

theorem ofText_unparse_eq_iff_of_storedAs {f : Format} {word : α → Nat} (hreach : f.WithinReach)
    (hstored : StoredAs α f word) (line : String) :
    (ofText (unparse (ofText line : List (Token α))) : List (Token α)) = ofText line ↔
      ∀ x : α, number x ∈ (ofText line : List (Token α)) → f.IsWrittenOut (word x) := by
  have hne : ∀ t ∈ (ofText line : List (Token α)), (ofText t.text : List (Token α)) ≠ [] := by
    intro t ht
    by_cases hnumber : ∃ x, t = number x
    · obtain ⟨x, rfl⟩ := hnumber
      exact ofText_text_number_ne_nil hreach hstored x
    · rw [ofText_text ht (fun x hx => hnumber ⟨x, hx⟩)]
      exact List.cons_ne_nil _ _
  rw [ofText_unparse, flatMap_eq_self_iff hne]
  constructor
  · intro h x hx
    exact (ofText_text_number_iff hreach hstored x).mp (h _ hx)
  · intro h t ht
    by_cases hnumber : ∃ x, t = number x
    · obtain ⟨x, rfl⟩ := hnumber
      exact (ofText_text_number_iff hreach hstored x).mpr (h x ht)
    · exact ofText_text ht fun x hx => hnumber ⟨x, hx⟩

/-- The tokens of a text survive printing if and only if all their numbers are written out. -/
theorem ofText_unparse_eq_iff (line : String) :
    ((ofText (unparse (ofText line : List (Token Float))) : List (Token Float)) = ofText line ↔
      ∀ x : Float, number x ∈ (ofText line : List (Token Float)) → Format.double.IsWrittenOut x.toBits.toNat) ∧
    ((ofText (unparse (ofText line : List (Token Float32))) : List (Token Float32)) = ofText line ↔
      ∀ x : Float32, number x ∈ (ofText line : List (Token Float32)) → Format.single.IsWrittenOut x.toBits.toNat) :=
  ⟨ofText_unparse_eq_iff_of_storedAs Format.withinReach_double storedAs_double line,
    ofText_unparse_eq_iff_of_storedAs Format.withinReach_single storedAs_single line⟩

/-- A small number is printed with an exponent, and is read as three tokens. -/
theorem ofText_unparse_ne :
    (ofText (unparse (ofText "0.00001" : List (Token Float))) : List (Token Float)) ≠ ofText "0.00001" := by
  decide +kernel

end Token

end DeskCalc
