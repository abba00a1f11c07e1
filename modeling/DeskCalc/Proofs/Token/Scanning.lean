import DeskCalc.Proofs.Token.WellFormed

/-! # Scanning a text

The tokens of a text can be read off it from left to right, each as soon as its characters have been seen: symbols are
tokens by themselves, blanks are passed over, and a longest run of other characters is a number or a name, depending on
whether it is a literal of the grammar.

* `Token.ofRun?`: the token of a run, a number for a literal.
* `Token.scan?`: the tokens of a text, read from left to right.
* `Token.scan?_eq`: they are the tokens that remain when the symbols are set apart and the text is cut into words.
* `Token.Scanned`, `Token.ofText_scanned`: this for both number types, and that symbols and blanks cut a text.
-/

namespace DeskCalc
open DeskCalc.Number DeskCalc.Text
set_option autoImplicit false

/-! ## Longest runs -/

theorem cuts_longest {c : Char} (h : cuts c = false) (cs : List Char) :
    ∀ d ∈ c :: cs.takeWhile (!cuts ·), cuts d = false := by
  intro d hd
  rcases List.mem_cons.mp hd with rfl | hd
  · exact h
  · simpa using List.mem_takeWhile_imp hd

/-- A run ends at the next character that cuts, or with the text. -/
theorem pieces_dropWhile (run cs : List Char) :
    pieces run (cs.dropWhile (!cuts ·)) = flush run ++ pieces [] (cs.dropWhile (!cuts ·)) := by
  cases hrest : cs.dropWhile (!cuts ·) with
  | nil => simp [pieces, flush]
  | cons d rest =>
    have hd : cuts d = true := by
      have hhead := List.head?_dropWhile_not (!cuts ·) cs
      rw [hrest] at hhead
      simpa using hhead
    have hfirst : pieces [] (d :: rest) = pieces [] [d] ++ pieces [] rest := pieces_cons_cut hd [] rest
    rw [pieces_cons_cut hd run, hfirst]

theorem pieces_longest {c : Char} (h : cuts c = false) (cs : List Char) :
    pieces [] (c :: cs) = (c :: cs.takeWhile (!cuts ·)) :: pieces [] (cs.dropWhile (!cuts ·)) := by
  have hsplit : c :: cs = (c :: cs.takeWhile (!cuts ·)) ++ cs.dropWhile (!cuts ·) := by simp
  rw [hsplit, pieces_run [] _ _ (cuts_longest h cs), pieces_dropWhile]
  simp [flush]

/-! ## The scan -/

namespace Token

variable {α : Type} [Scalar α]

/-- A literal of the grammar is a number, and everything else is a name. A literal that cannot be read has no token. -/
def ofRun? (run : List Char) : Option (Token α) :=
  if ∃ d, Literal run d then (Scalar.read? run).map number else some (name (String.ofList run))

/-- One look at every character, from left to right. -/
def scan? : List Char → Option (List (Token α))
  | [] => some []
  | c :: cs =>
    if isBlank c then scan? cs
    else
      match ofSymbol? c with
      | some t => (t :: ·) <$> scan? cs
      | none => do
        let t ← ofRun? (c :: cs.takeWhile (!cuts ·))
        let ts ← scan? (cs.dropWhile (!cuts ·))
        pure (t :: ts)
termination_by cs => cs.length
decreasing_by
  · exact Nat.lt_succ_self _
  · exact Nat.lt_succ_self _
  · exact Nat.lt_succ_of_le (List.dropWhile_sublist _).length_le

theorem ofSymbol?_eq_none_iff {c : Char} : (ofSymbol? c : Option (Token α)) = none ↔ c ∉ symbols := by
  constructor
  · intro h hc
    simp only [symbols, List.mem_cons, List.not_mem_nil, or_false] at hc
    rcases hc with rfl | rfl | rfl | rfl | rfl | rfl <;> cases h
  · intro hc
    rw [Option.eq_none_iff_forall_ne_some]
    intro t ht
    exact hc (ofSymbol?_eq_some ht).1

theorem ofWord_of_ofSymbol? {c : Char} {t : Token α} (h : ofSymbol? c = some t) : ofWord [c] = t := by
  simp [ofWord, symbolOf?, h]

theorem ofRun?_eq {kind : α → Prop} (hread : ReadsLiterals α kind) {run : List Char}
    (hcuts : ∀ c ∈ run, cuts c = false) : ofRun? run = some (ofWord run : Token α) := by
  unfold ofRun?
  by_cases hliteral : ∃ d, Literal run d
  · obtain ⟨x, hx, hword, -⟩ := exists_number hread (isNumeral_iff.mpr hliteral)
    rw [if_pos hliteral, hword, hx]
    rfl
  · have hnumeral : isNumeral run = false := Bool.eq_false_iff.mpr fun h => hliteral (isNumeral_iff.mp h)
    rw [if_neg hliteral, ofWord_run hcuts hnumeral]

/-- The scan follows the pieces of the text, one at a time. -/
theorem scan?_eq {kind : α → Prop} (hread : ReadsLiterals α kind) (cs : List Char) :
    scan? cs = some (ofChars cs : List (Token α)) := by
  rw [ofChars_eq_map]
  fun_induction scan? (α := α) cs with
  | case1 => rfl
  | case2 c cs hblank ih =>
    rw [ih, pieces, if_pos hblank]
    rfl
  | case3 c cs hblank t ht ih =>
    have hsymbol : c ∈ symbols := (ofSymbol?_eq_some ht).1
    rw [ih, pieces, if_neg hblank, if_pos hsymbol, ← ofWord_of_ofSymbol? ht]
    rfl
  | case4 c cs hblank hsymbol ih =>
    have hc : cuts c = false := cuts_eq_false_iff.mpr ⟨by simpa using hblank, ofSymbol?_eq_none_iff.mp hsymbol⟩
    rw [ih, ofRun?_eq hread (cuts_longest hc cs), pieces_longest hc]
    rfl

/-! ## Both number types -/

/-- The tokens of a text are those of its scan, and a symbol or a blank cuts the text in two. -/
structure Scanned (α : Type) [Scalar α] : Prop where
  scan : ∀ text : String, scan? text.toList = some (ofText text : List (Token α))
  cut : ∀ (a b : String) (d : Char), d ∈ symbols ∨ isBlank d = true →
    (ofText (a ++ String.singleton d ++ b) : List (Token α)) =
      ofText a ++ ofText (String.singleton d) ++ ofText b

theorem scanned_of_readsLiterals {kind : α → Prop} (hread : ReadsLiterals α kind) : Scanned α where
  scan text := scan?_eq hread text.toList
  cut a b d hd := by
    have hchars : (a ++ String.singleton d ++ b).toList = a.toList ++ d :: b.toList := by simp
    have hone : (String.singleton d).toList = [d] := by simp
    rw [ofText, hchars, ofChars_append_cut (cuts_eq_true_iff.mpr hd), ofText, ofText, ofText, hone, List.append_assoc]

theorem ofText_scanned : Scanned Float ∧ Scanned Float32 :=
  ⟨scanned_of_readsLiterals readsLiterals_double, scanned_of_readsLiterals readsLiterals_single⟩

end Token

end DeskCalc
