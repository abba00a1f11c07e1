import DeskCalc.Proofs.Token.Spacing

/-! # The tokens of a text in one pass

Where the symbols of a text are set apart, its words can be read off the text itself: every symbol is a word, and so is
every longest run of other characters without blanks.

* `pieces`: the words of a text by one pass; `words_spaced` says that they are the words of the spaced text.
* `mem_pieces`, `mem_of_mem_pieces`, `mem_flatten_pieces`: what a piece consists of, and that only blanks are lost.
* `Token.exists_word_of_mem`: what a token is made of.
* `Token.ofChars_append_cut`, `Token.ofChars_append_blank`: a text is cut at its symbols and blanks.
* `Token.ofChars_eq_nil_iff`: only blanks have no tokens. `Token.ofChars_blanks_append`, `Token.ofChars_append_blanks`:
  at the ends of a text they change nothing.
-/

namespace DeskCalc
open DeskCalc.Number DeskCalc.Text
set_option autoImplicit false

/-! ## Pieces -/

/-- The word that ends here, if a run has begun. -/
def flush (run : List Char) : List (List Char) := if run.isEmpty then [] else [run.reverse]

/-- The words of a text, where `run` holds the characters since the last cut, last one first. -/
def pieces (run : List Char) : List Char → List (List Char)
  | [] => flush run
  | c :: cs =>
    if isBlank c then flush run ++ pieces [] cs
    else if c ∈ symbols then flush run ++ [c] :: pieces [] cs
    else pieces (c :: run) cs

theorem words_reverse {run : List Char} (h : ∀ c ∈ run, isBlank c = false) : words run.reverse = flush run := by
  cases run with
  | nil => rfl
  | cons c run => exact words_singleton (fun d hd => h d (List.mem_reverse.mp hd)) (by simp)

theorem words_flatMap_apart (run cs : List Char) (hrun : ∀ c ∈ run, isBlank c = false) :
    words (run.reverse ++ cs.flatMap (apart symbols)) = pieces run cs := by
  -- the run holds its last character first, so a character joins it in front
  induction cs generalizing run with
  | nil => rw [List.flatMap_nil, List.append_nil, words_reverse hrun, pieces]
  | cons c cs ih =>
    have hnext := ih [] (fun _ h => nomatch h)
    rw [List.reverse_nil, List.nil_append] at hnext
    rw [List.flatMap_cons, pieces]
    by_cases hsymbol : c ∈ symbols
    · have hc := isBlank_symbol hsymbol
      have hspace : isBlank ' ' = true := rfl
      have hword : words [c] = [[c]] := words_singleton (by simpa using hc) (by simp)
      have happart : apart symbols c ++ cs.flatMap (apart symbols) =
          ' ' :: ([c] ++ ' ' :: cs.flatMap (apart symbols)) := by
        rw [apart, if_pos hsymbol]
        rfl
      rw [happart, words_append_cons hspace, words_append_cons hspace, words_reverse hrun, hword, hnext, hc,
        if_pos hsymbol]
      rfl
    · have happart : apart symbols c ++ cs.flatMap (apart symbols) = c :: cs.flatMap (apart symbols) := by
        rw [apart, if_neg hsymbol]
        rfl
      rw [happart, if_neg hsymbol]
      by_cases hc : isBlank c = true
      · rw [words_append_cons hc, words_reverse hrun, hnext, if_pos hc]
      · have hc' : isBlank c = false := by simpa using hc
        have h := ih (c :: run) (by simpa using ⟨hc', hrun⟩)
        rw [List.reverse_cons, List.append_assoc, List.singleton_append] at h
        rw [h, if_neg hc]

theorem words_spaced (cs : List Char) : words (spaced cs) = pieces [] cs := by
  rw [spaced_eq, words_trim]
  exact words_flatMap_apart [] cs (fun _ h => nomatch h)

/-- A character that no run contains. -/
def cuts (c : Char) : Bool := isBlank c || symbols.contains c

theorem cuts_eq_true_iff {c : Char} : cuts c = true ↔ c ∈ symbols ∨ isBlank c = true := by
  rw [cuts, Bool.or_eq_true, List.contains_iff_mem, or_comm]

theorem cuts_eq_false_iff {c : Char} : cuts c = false ↔ isBlank c = false ∧ c ∉ symbols := by
  rw [cuts, Bool.or_eq_false_iff, Bool.eq_false_iff (b := symbols.contains c), Ne, List.contains_iff_mem]

theorem pieces_run (run cs rest : List Char) (h : ∀ c ∈ cs, cuts c = false) :
    pieces run (cs ++ rest) = pieces (cs.reverse ++ run) rest := by
  induction cs generalizing run with
  | nil => rfl
  | cons c cs ih =>
    obtain ⟨hblank, hsymbol⟩ := cuts_eq_false_iff.mp (h c (.head _))
    rw [List.cons_append, pieces, hblank, if_neg (by decide), if_neg hsymbol, ih (c :: run) fun d hd => h d (.tail _ hd),
      List.reverse_cons, List.append_assoc, List.singleton_append]

theorem pieces_cons_cut {d : Char} (h : cuts d = true) (run rest : List Char) :
    pieces run (d :: rest) = flush run ++ (pieces [] [d] ++ pieces [] rest) := by
  by_cases hd : isBlank d = true
  · simp [pieces, flush, hd]
  · have hsymbol : d ∈ symbols := (cuts_eq_true_iff.mp h).resolve_right hd
    simp [pieces, flush, hd, hsymbol]

theorem pieces_append_cut {d : Char} (h : cuts d = true) (run cs rest : List Char) :
    pieces run (cs ++ d :: rest) = pieces run cs ++ (pieces [] [d] ++ pieces [] rest) := by
  induction cs generalizing run with
  | nil => exact pieces_cons_cut h run rest
  | cons c cs ih =>
    rw [List.cons_append, pieces, pieces]
    by_cases hc : isBlank c = true
    · rw [if_pos hc, if_pos hc, ih, List.append_assoc]
    · by_cases hsymbol : c ∈ symbols
      · rw [if_neg hc, if_neg hc, if_pos hsymbol, if_pos hsymbol, ih, List.append_assoc, List.cons_append]
      · rw [if_neg hc, if_neg hc, if_neg hsymbol, if_neg hsymbol, ih]

theorem pieces_blank {b : Char} (h : isBlank b = true) : pieces [] [b] = [] := by
  simp [pieces, flush, h]

theorem flush_eq_nil_iff {run : List Char} : flush run = [] ↔ run = [] := by
  simp [flush]

theorem pieces_eq_nil_iff {run cs : List Char} : pieces run cs = [] ↔ run = [] ∧ allBlank cs = true := by
  induction cs generalizing run with
  | nil => simpa [pieces, allBlank] using flush_eq_nil_iff
  | cons c cs ih =>
    rw [pieces, allBlank_iff, List.forall_mem_cons, ← allBlank_iff]
    by_cases hc : isBlank c = true
    · rw [if_pos hc, List.append_eq_nil_iff, flush_eq_nil_iff, ih]
      simp [hc]
    · by_cases hsymbol : c ∈ symbols
      · rw [if_neg hc, if_pos hsymbol]
        simp [hc]
      · rw [if_neg hc, if_neg hsymbol, ih]
        simp [hc]

theorem mem_flush {run w : List Char} (hrun : ∀ c ∈ run, cuts c = false) (h : w ∈ flush run) :
    w ≠ [] ∧ ∀ c ∈ w, cuts c = false := by
  unfold flush at h
  split at h
  · cases h
  · next hne =>
    rw [List.mem_singleton.mp h]
    exact ⟨by simpa using hne, by simpa using hrun⟩

/-- A piece is a symbol, or a run that nothing cuts. -/
theorem mem_pieces {run cs w : List Char} (hrun : ∀ c ∈ run, cuts c = false) (h : w ∈ pieces run cs) :
    (∃ c ∈ symbols, w = [c]) ∨ (w ≠ [] ∧ ∀ c ∈ w, cuts c = false) := by
  induction cs generalizing run with
  | nil => exact .inr (mem_flush hrun h)
  | cons c cs ih =>
    have hnil : ∀ d ∈ ([] : List Char), cuts d = false := by simp
    rw [pieces] at h
    by_cases hc : isBlank c = true
    · rw [if_pos hc] at h
      rcases List.mem_append.mp h with h | h
      · exact .inr (mem_flush hrun h)
      · exact ih hnil h
    · by_cases hsymbol : c ∈ symbols
      · rw [if_neg hc, if_pos hsymbol] at h
        rcases List.mem_append.mp h with h | h
        · exact .inr (mem_flush hrun h)
        · rcases List.mem_cons.mp h with rfl | h
          · exact .inl ⟨c, hsymbol, rfl⟩
          · exact ih hnil h
      · rw [if_neg hc, if_neg hsymbol] at h
        have hcut : cuts c = false := cuts_eq_false_iff.mpr ⟨by simpa using hc, hsymbol⟩
        exact ih (by simpa using ⟨hcut, hrun⟩) h

theorem mem_of_mem_flush {run w : List Char} {c : Char} (h : w ∈ flush run) (hc : c ∈ w) : c ∈ run := by
  unfold flush at h
  split at h
  · cases h
  · rw [List.mem_singleton.mp h] at hc
    exact List.mem_reverse.mp hc

/-- No other character stands in a piece than in the text. -/
theorem mem_of_mem_pieces {run cs w : List Char} {c : Char} (h : w ∈ pieces run cs) (hc : c ∈ w) :
    c ∈ run ∨ c ∈ cs := by
  induction cs generalizing run with
  | nil => exact .inl (mem_of_mem_flush h hc)
  | cons d cs ih =>
    have hnext (h : w ∈ pieces [] cs) : c ∈ run ∨ c ∈ d :: cs :=
      .inr (.tail _ ((ih h).resolve_left List.not_mem_nil))
    rw [pieces] at h
    split at h
    · rcases List.mem_append.mp h with h | h
      · exact .inl (mem_of_mem_flush h hc)
      · exact hnext h
    · split at h
      · rcases List.mem_append.mp h with h | h
        · exact .inl (mem_of_mem_flush h hc)
        · rcases List.mem_cons.mp h with rfl | h
          · exact .inr (List.mem_singleton.mp hc ▸ .head _)
          · exact hnext h
      · rcases ih h with h | h
        · rcases List.mem_cons.mp h with rfl | h
          · exact .inr (.head _)
          · exact .inl h
        · exact .inr (.tail _ h)

theorem mem_flatten_flush {run : List Char} {c : Char} (h : c ∈ run) : c ∈ (flush run).flatten := by
  have hne : ¬run.isEmpty = true := by
    rw [List.isEmpty_iff]
    exact List.ne_nil_of_mem h
  rw [flush, if_neg hne, List.flatten_singleton]
  exact List.mem_reverse.mpr h

/-- No other character than a blank is lost. -/
theorem mem_flatten_pieces {run cs : List Char} {c : Char} (h : c ∈ run ∨ c ∈ cs) (hc : isBlank c = false) :
    c ∈ (pieces run cs).flatten := by
  induction cs generalizing run with
  | nil => exact mem_flatten_flush (h.resolve_right (by simp))
  | cons d cs ih =>
    rw [pieces]
    split
    · next hd =>
      rw [List.flatten_append, List.mem_append]
      rcases h with h | h
      · exact .inl (mem_flatten_flush h)
      · refine .inr (ih (.inr ((List.mem_cons.mp h).resolve_left ?_)))
        rintro rfl
        rw [hc] at hd
        cases hd
    · split
      · rw [List.flatten_append, List.mem_append, List.flatten_cons, List.mem_append]
        rcases h with h | h
        · exact .inl (mem_flatten_flush h)
        · rcases List.mem_cons.mp h with rfl | h
          · exact .inr (.inl (.head _))
          · exact .inr (.inr (ih (.inr h)))
      · refine ih ?_
        rcases h with h | h
        · exact .inl (.tail _ h)
        · rcases List.mem_cons.mp h with rfl | h
          · exact .inl (.head _)
          · exact .inr h

/-! ## Tokens -/

namespace Token

variable {α : Type} [Scalar α]

theorem ofChars_eq_map (cs : List Char) : (ofChars cs : List (Token α)) = (pieces [] cs).map ofWord := by
  rw [ofChars, words_spaced]

/-- A token of a text is made of characters of the text: of one symbol, or of some characters that nothing cuts. -/
theorem exists_word_of_mem {cs : List Char} {t : Token α} (h : t ∈ (ofChars cs : List (Token α))) :
    ∃ word, t = ofWord word ∧ (∀ c ∈ word, c ∈ cs) ∧
      ((∃ c ∈ symbols, word = [c]) ∨ (word ≠ [] ∧ ∀ c ∈ word, cuts c = false)) := by
  rw [ofChars_eq_map, List.mem_map] at h
  obtain ⟨word, hword, rfl⟩ := h
  have hnil : ∀ c ∈ ([] : List Char), cuts c = false := fun _ h => nomatch h
  refine ⟨word, rfl, fun c hc => ?_, mem_pieces hnil hword⟩
  exact (mem_of_mem_pieces hword hc).resolve_left List.not_mem_nil

theorem ofChars_nil : (ofChars [] : List (Token α)) = [] := by
  rw [ofChars_eq_map]
  rfl

theorem ofChars_append_cut {d : Char} (h : cuts d = true) (xs ys : List Char) :
    (ofChars (xs ++ d :: ys) : List (Token α)) = ofChars xs ++ (ofChars [d] ++ ofChars ys) := by
  simp only [ofChars_eq_map, pieces_append_cut h, List.map_append]

theorem ofChars_append_blank {b : Char} (h : isBlank b = true) (xs ys : List Char) :
    (ofChars (xs ++ b :: ys) : List (Token α)) = ofChars xs ++ ofChars ys := by
  have hcut : cuts b = true := cuts_eq_true_iff.mpr (.inr h)
  have hb : (ofChars [b] : List (Token α)) = [] := by rw [ofChars_eq_map, pieces_blank h, List.map_nil]
  rw [ofChars_append_cut hcut, hb, List.nil_append]

/-- A run that nothing cuts is one word. -/
theorem ofChars_run {run : List Char} (h : ∀ c ∈ run, cuts c = false) (hne : run ≠ []) :
    (ofChars run : List (Token α)) = [ofWord run] := by
  have hpieces : pieces [] run = [run] := by
    have hrun := pieces_run [] run [] h
    rw [List.append_nil, List.append_nil] at hrun
    rw [hrun, pieces, flush, List.reverse_reverse]
    simp [hne]
  rw [ofChars_eq_map, hpieces]
  rfl

theorem ofChars_symbol {c : Char} (h : c ∈ symbols) : (ofChars [c] : List (Token α)) = [ofWord [c]] := by
  rw [ofChars_eq_map, pieces, isBlank_symbol h, if_neg (by decide), if_pos h]
  rfl

theorem ofChars_eq_nil_iff {cs : List Char} : (ofChars cs : List (Token α)) = [] ↔ allBlank cs = true := by
  rw [ofChars_eq_map, List.map_eq_nil_iff, pieces_eq_nil_iff]
  exact and_iff_right rfl

theorem ofChars_blanks_append {front : List Char} (h : allBlank front = true) (cs : List Char) :
    (ofChars (front ++ cs) : List (Token α)) = ofChars cs := by
  induction front with
  | nil => rfl
  | cons b front ih =>
    rw [allBlank_iff, List.forall_mem_cons, ← allBlank_iff] at h
    have hcut := ofChars_append_blank (α := α) h.1 [] (front ++ cs)
    rw [List.nil_append, ofChars_nil, List.nil_append] at hcut
    exact hcut.trans (ih h.2)

theorem ofChars_append_blanks (cs : List Char) {behind : List Char} (h : allBlank behind = true) :
    (ofChars (cs ++ behind) : List (Token α)) = ofChars cs := by
  cases behind with
  | nil => rw [List.append_nil]
  | cons b behind =>
    rw [allBlank_iff, List.forall_mem_cons, ← allBlank_iff] at h
    rw [ofChars_append_blank h.1, ofChars_eq_nil_iff.mpr h.2, List.append_nil]

end Token

end DeskCalc
