import DeskCalc.Text.Blank

/-! # Blanks and words

* `Stops`: a text does not go on with a character of a class.
* `takeWhile_dropWhile_iff`: the longest run of a class in front, and what follows it, are the parts of the one way to
  cut the text there.
* `isBlank_of_visible`: the visible characters of ASCII are no blanks.
* `Trimmed`, `trim_eq_iff`: a text is its trimmed form between blanks.
* `visible`, `visible_trim`: a text without any blanks, which trimming leaves as it is.
* `ItemList`, `items_eq_iff`: the items of a text are its pieces between commas.
* `mem_of_mem_items`, `exists_mem_items`: no visible character but the commas is gained or lost among the items.
* `words_append_cons`, `words_singleton`: words end at blanks, and only there.
* `words_trim`: trimming a text does not change its words.
-/

namespace DeskCalc.Text
set_option autoImplicit false

/-! ## Runs -/

def Stops (p : Char → Bool) (rest : List Char) : Prop := ∀ c ∈ rest.head?, p c = false

theorem stops_nil (p : Char → Bool) : Stops p [] := fun _ h => nomatch h

theorem stops_cons {p : Char → Bool} {c : Char} (h : p c = false) (rest : List Char) : Stops p (c :: rest) := by
  intro d hd
  cases hd
  exact h

theorem stops_append {p : Char → Bool} {run rest : List Char} (hrun : ∀ c ∈ run, p c = false) (hrest : Stops p rest) :
    Stops p (run ++ rest) := by
  cases run with
  | nil => exact hrest
  | cons c run => exact stops_cons (hrun c (.head _)) _

theorem Stops.of_append {p : Char → Bool} {cs rest : List Char} (h : Stops p (cs ++ rest)) : Stops p cs := by
  cases cs with
  | nil => exact stops_nil p
  | cons c cs => exact stops_cons (h c rfl) cs

theorem stops_dropWhile (p : Char → Bool) (cs : List Char) : Stops p (cs.dropWhile p) := by
  intro c hc
  have h := List.head?_dropWhile_not p cs
  rw [Option.mem_def.mp hc] at h
  simpa using h

theorem takeWhile_dropWhile_iff {p : Char → Bool} {cs run rest : List Char} :
    (cs.takeWhile p = run ∧ cs.dropWhile p = rest) ↔ cs = run ++ rest ∧ (∀ c ∈ run, p c = true) ∧ Stops p rest := by
  constructor
  · rintro ⟨rfl, rfl⟩
    exact ⟨List.takeWhile_append_dropWhile.symm, List.all_eq_true.mp List.all_takeWhile, stops_dropWhile p cs⟩
  · rintro ⟨rfl, hrun, hrest⟩
    rw [List.takeWhile_append_of_pos hrun, List.dropWhile_append_of_pos hrun]
    cases rest with
    | nil => simp
    | cons c rest =>
      have hc : p c = false := hrest c rfl
      simp [hc]

theorem dropWhile_eq_iff {p : Char → Bool} {cs rest : List Char} :
    cs.dropWhile p = rest ↔ ∃ run, cs = run ++ rest ∧ (∀ c ∈ run, p c = true) ∧ Stops p rest := by
  constructor
  · intro h
    exact ⟨cs.takeWhile p, takeWhile_dropWhile_iff.mp ⟨rfl, h⟩⟩
  · rintro ⟨run, h⟩
    exact (takeWhile_dropWhile_iff.mpr h).2

/-! ## Blanks -/

/-- The visible characters of ASCII are no blanks. -/
theorem isBlank_of_visible {c : Char} (hlow : 0x21 ≤ c.toNat) (hhigh : c.toNat ≤ 0x7E) : isBlank c = false := by
  rw [isBlank, Bool.eq_false_iff, Ne, Ranges.has_iff]
  rintro ⟨r, hr, hr_low, hr_high⟩
  simp only [blanks, List.mem_cons, List.not_mem_nil, or_false] at hr
  rcases hr with rfl | rfl | rfl | rfl | rfl | rfl | rfl | rfl | rfl | rfl <;> simp only at hr_low hr_high <;> omega

theorem allBlank_iff {cs : List Char} : allBlank cs = true ↔ ∀ c ∈ cs, isBlank c = true := List.all_eq_true

theorem allBlank_reverse {cs : List Char} : allBlank cs.reverse = allBlank cs := by
  rw [Bool.eq_iff_iff, allBlank_iff, allBlank_iff]
  simp

theorem not_mem_of_allBlank {cs : List Char} (h : allBlank cs = true) {c : Char} (hc : isBlank c = false) : c ∉ cs := by
  intro hmem
  rw [allBlank_iff.mp h c hmem] at hc
  cases hc

theorem skipBlanks_eq_iff {cs rest : List Char} :
    skipBlanks cs = rest ↔ ∃ blanks, cs = blanks ++ rest ∧ allBlank blanks = true ∧ Stops isBlank rest := by
  simp only [allBlank_iff]
  exact dropWhile_eq_iff

/-- What is left of a text without the blanks at its ends. -/
structure Trimmed (cs core : List Char) : Prop where
  blanks : ∃ before behind, allBlank before = true ∧ allBlank behind = true ∧ cs = before ++ (core ++ behind)
  front : Stops isBlank core
  back : Stops isBlank core.reverse

theorem trimmed_trim (cs : List Char) : Trimmed cs (trim cs) := by
  obtain ⟨before, hcs, hbefore, hfront⟩ := skipBlanks_eq_iff.mp (rfl : skipBlanks cs = _)
  obtain ⟨behind, hrev, hbehind, hback⟩ := skipBlanks_eq_iff.mp (rfl : skipBlanks (skipBlanks cs).reverse = _)
  have hmid : skipBlanks cs = trim cs ++ behind.reverse := by
    rw [trim, ← List.reverse_append, ← hrev, List.reverse_reverse]
  refine ⟨⟨before, behind.reverse, hbefore, by rwa [allBlank_reverse], by rwa [← hmid]⟩, ?_, ?_⟩
  · rw [hmid] at hfront
    exact hfront.of_append
  · rwa [trim, List.reverse_reverse]

theorem trim_eq_iff {cs core : List Char} : trim cs = core ↔ Trimmed cs core := by
  constructor
  · rintro rfl
    exact trimmed_trim cs
  · rintro ⟨⟨before, behind, hbefore, hbehind, rfl⟩, hfront, hback⟩
    cases core with
    | nil =>
      have hblank : allBlank (before ++ behind) = true := by
        rw [allBlank, List.all_append, Bool.and_eq_true]
        exact ⟨hbefore, hbehind⟩
      have hskip : skipBlanks (before ++ ([] ++ behind)) = [] :=
        skipBlanks_eq_iff.mpr ⟨before ++ behind, by simp, hblank, stops_nil _⟩
      rw [trim, hskip]
      rfl
    | cons c core =>
      have hskip : skipBlanks (before ++ (c :: core ++ behind)) = c :: core ++ behind :=
        skipBlanks_eq_iff.mpr ⟨before, rfl, hbefore, stops_cons (hfront c rfl) _⟩
      have hback' : skipBlanks (c :: core ++ behind).reverse = (c :: core).reverse :=
        skipBlanks_eq_iff.mpr ⟨behind.reverse, List.reverse_append, by rwa [allBlank_reverse], hback⟩
      rw [trim, hskip, hback', List.reverse_reverse]

theorem trim_append {before core : List Char} (hbefore : allBlank before = true) : trim (before ++ core) = trim core := by
  obtain ⟨⟨front, behind, hfront, hbehind, hcore⟩, hstart, hend⟩ := trimmed_trim core
  apply trim_eq_iff.mpr
  refine ⟨⟨before ++ front, behind, ?_, hbehind, ?_⟩, hstart, hend⟩
  · rw [allBlank_iff, List.forall_mem_append, ← allBlank_iff, ← allBlank_iff]
    exact ⟨hbefore, hfront⟩
  · rw [List.append_assoc, ← hcore]

theorem trim_append_blanks (cs : List Char) {behind : List Char} (h : allBlank behind = true) : trim (cs ++ behind) = trim cs := by
  obtain ⟨⟨before, after, hbefore, hafter, hcs⟩, hfront, hback⟩ := trimmed_trim cs
  refine trim_eq_iff.mpr ⟨⟨before, after ++ behind, hbefore, ?_, ?_⟩, hfront, hback⟩
  · rw [allBlank_iff, List.forall_mem_append, ← allBlank_iff, ← allBlank_iff]
    exact ⟨hafter, h⟩
  · conv => lhs; rw [hcs]
    simp only [List.append_assoc]

theorem mem_of_mem_trim {cs : List Char} {c : Char} (h : c ∈ trim cs) : c ∈ cs := by
  obtain ⟨before, behind, _, _, hcs⟩ := (trimmed_trim cs).blanks
  rw [hcs]
  exact List.mem_append_right _ (List.mem_append_left _ h)

def visible (cs : List Char) : List Char := cs.filter fun c => !isBlank c

theorem visible_append (cs ds : List Char) : visible (cs ++ ds) = visible cs ++ visible ds := List.filter_append ..

theorem visible_of_allBlank {cs : List Char} (h : allBlank cs = true) : visible cs = [] := by
  rw [visible, List.filter_eq_nil_iff]
  intro c hc
  rw [allBlank_iff.mp h c hc]
  decide

theorem count_visible {c : Char} (hc : isBlank c = false) (cs : List Char) : (visible cs).count c = cs.count c :=
  List.count_filter (by rw [hc, Bool.not_false])

/-- Trimming takes no visible character away. -/
theorem visible_trim (cs : List Char) : visible (trim cs) = visible cs := by
  obtain ⟨before, behind, hbefore, hbehind, hcs⟩ := (trimmed_trim cs).blanks
  conv => rhs; rw [hcs]
  rw [visible_append, visible_append, visible_of_allBlank hbefore, visible_of_allBlank hbehind, List.nil_append,
    List.append_nil]

theorem count_trim {c : Char} (hc : isBlank c = false) (cs : List Char) : (trim cs).count c = cs.count c := by
  rw [← count_visible hc, visible_trim, count_visible hc]

theorem mem_trim {cs : List Char} {c : Char} (h : c ∈ cs) (hc : isBlank c = false) : c ∈ trim cs := by
  rw [← List.count_pos_iff, count_trim hc]
  exact List.count_pos_iff.mpr h

/-! ## Items -/

/-- The pieces of a text between commas, each trimmed. -/
inductive CommaSeparated : List Char → List (List Char) → Prop where
  | last {piece item : List Char} (hcomma : ',' ∉ piece) (hitem : Trimmed piece item) : CommaSeparated piece [item]
  | more {piece item rest : List Char} {items : List (List Char)} (hcomma : ',' ∉ piece) (hitem : Trimmed piece item)
      (hrest : CommaSeparated rest items) : CommaSeparated (piece ++ ',' :: rest) (item :: items)

/-- A list of blanks has no items. -/
def ItemList (list : List Char) (items : List (List Char)) : Prop :=
  if allBlank list = true then items = [] else CommaSeparated list items

theorem commaSeparated_splitOn (cs : List Char) : CommaSeparated cs ((cs.splitOn ',').map trim) := by
  induction h : cs.length using Nat.strongRecOn generalizing cs with
  | ind n ih =>
    by_cases hcomma : ',' ∈ cs
    · obtain ⟨piece, rest, rfl, hpiece⟩ := List.eq_append_cons_of_mem hcomma
      rw [List.splitOn_append_cons_self_of_not_mem hpiece, List.map_cons]
      refine .more hpiece (trimmed_trim piece) (ih rest.length ?_ rest rfl)
      rw [List.length_append, List.length_cons] at h
      omega
    · rw [List.splitOn_eq_singleton hcomma, List.map_singleton]
      exact .last hcomma (trimmed_trim cs)

theorem commaSeparated_iff {cs : List Char} {ps : List (List Char)} :
    (cs.splitOn ',').map trim = ps ↔ CommaSeparated cs ps := by
  constructor
  · rintro rfl
    exact commaSeparated_splitOn cs
  · intro h
    induction h with
    | last hcomma hitem => rw [List.splitOn_eq_singleton hcomma, List.map_singleton, trim_eq_iff.mpr hitem]
    | more hcomma hitem _ ih =>
      rw [List.splitOn_append_cons_self_of_not_mem hcomma, List.map_cons, trim_eq_iff.mpr hitem, ih]

theorem items_eq_iff {list : List Char} {ps : List (List Char)} : items list = ps ↔ ItemList list ps := by
  rw [items, ItemList]
  split
  · exact eq_comm
  · exact commaSeparated_iff

theorem CommaSeparated.mem_of_mem {list item : List Char} {items : List (List Char)} (h : CommaSeparated list items)
    (hitem : item ∈ items) {c : Char} (hc : c ∈ item) : c ∈ list := by
  induction h with
  | last _ htrimmed =>
    rw [List.mem_singleton.mp hitem, ← trim_eq_iff.mpr htrimmed] at hc
    exact mem_of_mem_trim hc
  | more _ htrimmed _ ih =>
    rcases List.mem_cons.mp hitem with rfl | hitem
    · rw [← trim_eq_iff.mpr htrimmed] at hc
      exact List.mem_append_left _ (mem_of_mem_trim hc)
    · exact List.mem_append_right _ (.tail _ (ih hitem))

/-- No visible character but the commas is lost between the items. -/
theorem CommaSeparated.exists_mem {list : List Char} {items : List (List Char)} (h : CommaSeparated list items)
    {c : Char} (hc : c ∈ list) (hvisible : isBlank c = false) (hcomma : c ≠ ',') : ∃ item ∈ items, c ∈ item := by
  induction h with
  | @last piece item _ htrimmed =>
    refine ⟨item, .head _, ?_⟩
    rw [← trim_eq_iff.mpr htrimmed]
    exact mem_trim hc hvisible
  | @more piece item rest items _ htrimmed _ ih =>
    rcases List.mem_append.mp hc with hc | hc
    · refine ⟨item, .head _, ?_⟩
      rw [← trim_eq_iff.mpr htrimmed]
      exact mem_trim hc hvisible
    · obtain ⟨found, hfound, hmem⟩ := ih ((List.mem_cons.mp hc).resolve_left hcomma)
      exact ⟨found, .tail _ hfound, hmem⟩

theorem mem_of_mem_items {list item : List Char} (hitem : item ∈ items list) {c : Char} (hc : c ∈ item) : c ∈ list := by
  have h : ItemList list (items list) := items_eq_iff.mp rfl
  rw [ItemList] at h
  split at h
  · rw [h] at hitem
    cases hitem
  · exact h.mem_of_mem hitem hc

theorem exists_mem_items {list : List Char} {c : Char} (hc : c ∈ list) (hvisible : isBlank c = false)
    (hcomma : c ≠ ',') : ∃ item ∈ items list, c ∈ item := by
  have h : ItemList list (items list) := items_eq_iff.mp rfl
  rw [ItemList] at h
  split at h
  · next hblank => exact absurd hc (not_mem_of_allBlank hblank hvisible)
  · exact h.exists_mem hc hvisible hcomma

/-! ## Words -/

theorem words_nil : words [] = [] := rfl

theorem words_append_cons {b : Char} (h : isBlank b = true) (xs ys : List Char) :
    words (xs ++ b :: ys) = words xs ++ words ys := by
  rw [words, List.splitOnP_append_cons xs ys h, List.filter_append]
  rfl

theorem words_cons_blank {b : Char} (h : isBlank b = true) (cs : List Char) : words (b :: cs) = words cs :=
  words_append_cons h [] cs

/-- A run without blanks is one word. -/
theorem words_singleton {run : List Char} (h : ∀ c ∈ run, isBlank c = false) (hne : run ≠ []) : words run = [run] := by
  rw [words, List.splitOnP_eq_singleton h]
  simp [hne]

theorem words_append_allBlank {blanks : List Char} (h : allBlank blanks = true) (cs : List Char) :
    words (blanks ++ cs) = words cs := by
  induction blanks with
  | nil => rfl
  | cons b blanks ih =>
    rw [allBlank_iff] at h
    rw [List.cons_append, words_cons_blank (h b (.head _))]
    exact ih (allBlank_iff.mpr fun c hc => h c (.tail _ hc))

theorem words_allBlank {blanks : List Char} (h : allBlank blanks = true) : words blanks = [] := by
  rw [← List.append_nil blanks, words_append_allBlank h, words_nil]

theorem words_append_blanks (cs : List Char) {blanks : List Char} (h : allBlank blanks = true) :
    words (cs ++ blanks) = words cs := by
  cases blanks with
  | nil => rw [List.append_nil]
  | cons b blanks =>
    rw [allBlank_iff] at h
    rw [words_append_cons (h b (.head _)), words_allBlank (allBlank_iff.mpr fun c hc => h c (.tail _ hc)),
      List.append_nil]

theorem words_trim (cs : List Char) : words (trim cs) = words cs := by
  obtain ⟨before, behind, hbefore, hbehind, hcs⟩ := (trimmed_trim cs).blanks
  conv => rhs; rw [hcs]
  rw [words_append_allBlank hbefore, words_append_blanks _ hbehind]

end DeskCalc.Text
