import DeskCalc.Command.Reader
import DeskCalc.Proofs.Text.Words

/-! # The shapes of a line

Each shape is a way to put a line together from its parts. The scanners find the parts of a shape if and only if the
line has it, so a line has a shape in one way at most.

* `Identifier`: the texts that are names.
* `KeywordLine`, `DefinitionLine`, `AssignmentLine`, `CallLine`: the shapes.
* `isDefinition_iff`, `definition?_eq_some_iff`, `assignment?_eq_some_iff`, `call?_eq_some_iff`: what is found.
-/

namespace DeskCalc
open DeskCalc.Text
set_option autoImplicit false

namespace Command

/-! ## Shapes -/

/-- Letters, digits and underscores of ASCII, no digit in front. -/
def Identifier (cs : List Char) : Prop :=
  ∃ c rest, cs = c :: rest ∧ (c.isAlpha = true ∨ c = '_') ∧ ∀ d ∈ rest, d.isAlphanum = true ∨ d = '_'

/-- The first word is `def`. -/
def KeywordLine (line : List Char) : Prop :=
  ∃ blanks rest, allBlank blanks = true ∧ line = blanks ++ 'd' :: 'e' :: 'f' :: rest ∧ Stops isWordChar rest

/-- `def name ( params ) = body`. Parameters stop at the first parenthesis, and the body ends with the line. -/
structure DefinitionLine (line : List Char) (name : String) (params body : List Char) : Prop where
  identifier : Identifier name.toList
  params_free : ∀ c ∈ params, isParenthesis c = false
  body_free : '\n' ∉ body
  spelled : ∃ front gap inner behind, allBlank front = true ∧ allBlank gap = true ∧ gap ≠ [] ∧ allBlank inner = true ∧
    allBlank behind = true ∧ line = front ++ 'd' :: 'e' :: 'f' :: (gap ++ (name.toList ++ (inner ++
      '(' :: (params ++ ')' :: (behind ++ '=' :: body)))))

/-- `name = expression`. The expression ends with the line. -/
structure AssignmentLine (line : List Char) (name : String) (expression : List Char) : Prop where
  identifier : Identifier name.toList
  expression_free : '\n' ∉ expression
  spelled : ∃ front inner, allBlank front = true ∧ allBlank inner = true ∧
    line = front ++ (name.toList ++ (inner ++ '=' :: expression))

/-- `name ( list )` and nothing else. -/
structure CallLine (line : List Char) (name : String) (list : List Char) : Prop where
  identifier : Identifier name.toList
  list_free : ∀ c ∈ list, isParenthesis c = false
  spelled : ∃ front inner behind, allBlank front = true ∧ allBlank inner = true ∧ allBlank behind = true ∧
    line = front ++ (name.toList ++ (inner ++ '(' :: (list ++ ')' :: behind)))

/-! ## Characters -/

theorem toNat_of_continuesName {c : Char} (h : continuesName c = true) :
    (48 ≤ c.toNat ∧ c.toNat ≤ 57) ∨ (65 ≤ c.toNat ∧ c.toNat ≤ 90) ∨ c.toNat = 95 ∨
      (97 ≤ c.toNat ∧ c.toNat ≤ 122) := by
  have hclasses : ((decide (c.val ≥ 65 ∧ c.val ≤ 90) || (c.val ≥ 97 && c.val ≤ 122)) || (c.val ≥ 48 && c.val ≤ 57) ||
      c == '_') = true := h
  simp only [Bool.or_eq_true, Bool.and_eq_true, decide_eq_true_eq, beq_iff_eq, ge_iff_le,
    UInt32.le_iff_toNat_le] at hclasses
  rcases hclasses with ((h | h) | h) | rfl
  · exact .inr (.inl h)
  · exact .inr (.inr (.inr h))
  · exact .inl h
  · exact .inr (.inr (.inl rfl))

theorem continuesName_of_startsName {c : Char} (h : startsName c = true) : continuesName c = true := by
  rw [startsName, Bool.or_eq_true] at h
  rw [continuesName, Char.isAlphanum, Bool.or_eq_true, Bool.or_eq_true]
  exact h.imp_left .inl

theorem isBlank_of_continuesName {c : Char} (h : continuesName c = true) : isBlank c = false := by
  have hc := toNat_of_continuesName h
  exact isBlank_of_visible (by omega) (by omega)

theorem continuesName_of_isBlank {c : Char} (h : isBlank c = true) : continuesName c = false := by
  rw [Bool.eq_false_iff]
  intro hc
  rw [isBlank_of_continuesName hc] at h
  cases h

/-! ## Scanners -/

theorem startsName_iff {c : Char} : startsName c = true ↔ c.isAlpha = true ∨ c = '_' := by
  rw [startsName, Bool.or_eq_true, beq_iff_eq]

theorem continuesName_iff {c : Char} : continuesName c = true ↔ c.isAlphanum = true ∨ c = '_' := by
  rw [continuesName, Bool.or_eq_true, beq_iff_eq]

theorem identifier_cons_iff {c : Char} {cs : List Char} :
    Identifier (c :: cs) ↔ startsName c = true ∧ ∀ d ∈ cs, continuesName d = true := by
  simp only [startsName_iff, continuesName_iff]
  constructor
  · rintro ⟨_, _, h, hstart, hrun⟩
    cases h
    exact ⟨hstart, hrun⟩
  · rintro ⟨hstart, hrun⟩
    exact ⟨c, cs, rfl, hstart, hrun⟩

theorem not_identifier_nil : ¬Identifier [] := by
  rintro ⟨_, _, h, _⟩
  cases h

theorem isName_iff {cs : List Char} : isName cs = true ↔ Identifier cs := by
  cases cs with
  | nil => exact ⟨fun h => (nomatch h), fun h => absurd h not_identifier_nil⟩
  | cons c cs => rw [isName, identifier_cons_iff, Bool.and_eq_true, List.all_eq_true]

theorem stops_of_identifier {name : List Char} (h : Identifier name) (rest : List Char) :
    Stops isBlank (name ++ rest) := by
  cases name with
  | nil => exact absurd h not_identifier_nil
  | cons c cs =>
    exact stops_cons (isBlank_of_continuesName (continuesName_of_startsName (identifier_cons_iff.mp h).1)) _

theorem name?_eq_some_iff {cs rest : List Char} {name : String} :
    name? cs = some (name, rest) ↔ cs = name.toList ++ rest ∧ Identifier name.toList ∧ Stops continuesName rest := by
  cases cs with
  | nil =>
    refine ⟨fun h => (by cases h), fun ⟨hcs, hname, _⟩ => ?_⟩
    obtain ⟨hnil, _⟩ := List.append_eq_nil_iff.mp hcs.symm
    rw [hnil] at hname
    exact absurd hname not_identifier_nil
  | cons c cs =>
    rw [name?]
    constructor
    · intro h
      by_cases hc : startsName c = true
      · rw [if_pos hc] at h
        injection h with h
        injection h with hname hrest
        subst hname
        rw [String.toList_ofList]
        obtain ⟨hcs, hrun, hstop⟩ := takeWhile_dropWhile_iff.mp ⟨rfl, hrest⟩
        exact ⟨congrArg (c :: ·) hcs, identifier_cons_iff.mpr ⟨hc, hrun⟩, hstop⟩
      · rw [if_neg hc] at h
        cases h
    · rintro ⟨hcs, hname, hstop⟩
      cases hn : name.toList with
      | nil =>
        rw [hn] at hname
        exact absurd hname not_identifier_nil
      | cons d ds =>
        rw [hn] at hcs hname
        injection hcs with hcd hcs
        subst hcd
        obtain ⟨hstart, hrun⟩ := identifier_cons_iff.mp hname
        obtain ⟨htake, hdrop⟩ := takeWhile_dropWhile_iff.mpr ⟨hcs, hrun, hstop⟩
        rw [if_pos hstart, htake, hdrop, ← hn, String.ofList_toList]

theorem group?_eq_some_iff {cs inner rest : List Char} :
    group? cs = some (inner, rest) ↔ cs = '(' :: (inner ++ ')' :: rest) ∧ ∀ c ∈ inner, isParenthesis c = false := by
  constructor
  · intro h
    unfold group? at h
    split at h
    · next cs =>
      split at h
      · next rest' hdrop =>
        injection h with h
        injection h with hinner hrest
        subst hrest
        obtain ⟨hcs, hfree, _⟩ := takeWhile_dropWhile_iff.mp ⟨hinner, hdrop⟩
        exact ⟨congrArg _ hcs, fun c hc => by simpa using hfree c hc⟩
      · cases h
    · cases h
  · rintro ⟨rfl, hfree⟩
    have hstop : Stops (fun c => !isParenthesis c) (')' :: rest) := stops_cons rfl rest
    obtain ⟨htake, hdrop⟩ := takeWhile_dropWhile_iff.mpr ⟨rfl, fun c hc => by simp [hfree c hc], hstop⟩
    simp only [group?]
    rw [hdrop]
    exact congrArg some (congrArg (·, rest) htake)

theorem rightSide?_eq_some_iff {cs expression : List Char} :
    rightSide? cs = some expression ↔
      (∃ blanks, allBlank blanks = true ∧ cs = blanks ++ '=' :: expression) ∧ '\n' ∉ expression := by
  constructor
  · intro h
    unfold rightSide? at h
    split at h
    · next rest hskip =>
      split at h
      · cases h
      · next hfree =>
        injection h with h
        subst h
        obtain ⟨blanks, hcs, hblanks, _⟩ := skipBlanks_eq_iff.mp hskip
        exact ⟨⟨blanks, hblanks, hcs⟩, hfree⟩
    · cases h
  · rintro ⟨⟨blanks, hblanks, rfl⟩, hfree⟩
    have hskip : skipBlanks (blanks ++ '=' :: expression) = '=' :: expression :=
      skipBlanks_eq_iff.mpr ⟨blanks, rfl, hblanks, stops_cons rfl _⟩
    rw [rightSide?, hskip]
    exact if_neg hfree

theorem afterKeyword?_eq_some_iff {line rest : List Char} :
    afterKeyword? line = some rest ↔ ∃ blanks, allBlank blanks = true ∧ line = blanks ++ 'd' :: 'e' :: 'f' :: rest := by
  constructor
  · intro h
    unfold afterKeyword? at h
    split at h
    · next rest' hskip =>
      injection h with h
      subst h
      obtain ⟨blanks, hline, hblanks, _⟩ := skipBlanks_eq_iff.mp hskip
      exact ⟨blanks, hblanks, hline⟩
    · cases h
  · rintro ⟨blanks, hblanks, rfl⟩
    have hskip : skipBlanks (blanks ++ 'd' :: 'e' :: 'f' :: rest) = 'd' :: 'e' :: 'f' :: rest :=
      skipBlanks_eq_iff.mpr ⟨blanks, rfl, hblanks, stops_cons rfl _⟩
    rw [afterKeyword?, hskip]
    rfl

/-- Blanks may stand before a name. -/
theorem name?_skipBlanks_iff {cs rest : List Char} {name : String} :
    name? (skipBlanks cs) = some (name, rest) ↔
      (∃ blanks, allBlank blanks = true ∧ cs = blanks ++ (name.toList ++ rest)) ∧ Identifier name.toList ∧
        Stops continuesName rest := by
  rw [name?_eq_some_iff]
  constructor
  · rintro ⟨hskip, hname, hstop⟩
    obtain ⟨blanks, hcs, hblanks, _⟩ := skipBlanks_eq_iff.mp hskip
    exact ⟨⟨blanks, hblanks, hcs⟩, hname, hstop⟩
  · rintro ⟨⟨blanks, hblanks, hcs⟩, hname, hstop⟩
    exact ⟨skipBlanks_eq_iff.mpr ⟨blanks, hcs, hblanks, stops_of_identifier hname rest⟩, hname, hstop⟩

/-- Blanks may stand before a group. -/
theorem group?_skipBlanks_iff {cs inner rest : List Char} :
    group? (skipBlanks cs) = some (inner, rest) ↔
      (∃ blanks, allBlank blanks = true ∧ cs = blanks ++ '(' :: (inner ++ ')' :: rest)) ∧
        ∀ c ∈ inner, isParenthesis c = false := by
  rw [group?_eq_some_iff]
  constructor
  · rintro ⟨hskip, hfree⟩
    obtain ⟨blanks, hcs, hblanks, _⟩ := skipBlanks_eq_iff.mp hskip
    exact ⟨⟨blanks, hblanks, hcs⟩, hfree⟩
  · rintro ⟨⟨blanks, hblanks, hcs⟩, hfree⟩
    exact ⟨skipBlanks_eq_iff.mpr ⟨blanks, hcs, hblanks, stops_cons rfl _⟩, hfree⟩

/-- What stands behind a name ends it. -/
theorem stops_continuesName {blanks : List Char} (h : allBlank blanks = true) {c : Char}
    (hc : continuesName c = false) (rest : List Char) : Stops continuesName (blanks ++ c :: rest) :=
  stops_append (fun b hb => continuesName_of_isBlank (allBlank_iff.mp h b hb)) (stops_cons hc rest)

/-! ## Whole lines -/

theorem isDefinition_iff {line : List Char} : isDefinition line = true ↔ KeywordLine line := by
  rw [isDefinition]
  constructor
  · intro h
    cases hrest : afterKeyword? line with
    | none =>
      rw [hrest] at h
      cases h
    | some rest =>
      obtain ⟨blanks, hblanks, hline⟩ := afterKeyword?_eq_some_iff.mp hrest
      refine ⟨blanks, rest, hblanks, hline, ?_⟩
      rw [hrest] at h
      cases rest with
      | nil => exact stops_nil _
      | cons c rest => exact stops_cons (by simpa using h) rest
  · rintro ⟨blanks, rest, hblanks, hline, hstop⟩
    rw [afterKeyword?_eq_some_iff.mpr ⟨blanks, hblanks, hline⟩]
    cases rest with
    | nil => rfl
    | cons c rest =>
      have hc : isWordChar c = false := hstop c rfl
      simp [hc]

theorem assignment?_eq_some_iff {line expression : List Char} {name : String} :
    assignment? line = some (name, expression) ↔ AssignmentLine line name expression := by
  simp only [assignment?, Option.bind_eq_bind, Option.bind_eq_some_iff, Prod.exists, Option.pure_def, Option.some.injEq,
    Prod.mk.injEq, name?_skipBlanks_iff, rightSide?_eq_some_iff]
  constructor
  · rintro ⟨_, rest, ⟨⟨front, hfront, hline⟩, hname, _⟩, _, ⟨⟨inner, hinner, hrest⟩, hfree⟩, rfl, rfl⟩
    exact ⟨hname, hfree, front, inner, hfront, hinner, by rw [hline, hrest]⟩
  · rintro ⟨hname, hfree, front, inner, hfront, hinner, hline⟩
    exact ⟨name, _, ⟨⟨front, hfront, hline⟩, hname, stops_continuesName hinner rfl _⟩, expression,
      ⟨⟨inner, hinner, rfl⟩, hfree⟩, rfl, rfl⟩

theorem call?_eq_some_iff {line list : List Char} {name : String} :
    call? line = some (name, list) ↔ CallLine line name list := by
  simp only [call?, Option.bind_eq_bind, Option.bind_eq_some_iff, Prod.exists, Option.pure_def,
    Option.ite_none_right_eq_some, Option.some.injEq, Prod.mk.injEq, name?_skipBlanks_iff, group?_skipBlanks_iff]
  constructor
  · rintro ⟨_, rest, ⟨⟨front, hfront, hline⟩, hname, _⟩, _, behind, ⟨⟨inner, hinner, hrest⟩, hfree⟩, hbehind, rfl, rfl⟩
    exact ⟨hname, hfree, front, inner, behind, hfront, hinner, hbehind, by rw [hline, hrest]⟩
  · rintro ⟨hname, hfree, front, inner, behind, hfront, hinner, hbehind, hline⟩
    exact ⟨name, _, ⟨⟨front, hfront, hline⟩, hname, stops_continuesName hinner rfl _⟩, list, behind,
      ⟨⟨inner, hinner, rfl⟩, hfree⟩, hbehind, rfl, rfl⟩

/-- What follows the gap behind the keyword. -/
theorem header_eq_some_iff {cs params body : List Char} {name : String} :
    (do
      let (name, rest) ← name? (skipBlanks cs)
      let (params, rest) ← group? (skipBlanks rest)
      let body ← rightSide? rest
      pure (name, params, body)) = some (name, params, body) ↔
      (∃ gap inner behind, allBlank gap = true ∧ allBlank inner = true ∧ allBlank behind = true ∧
        cs = gap ++ (name.toList ++ (inner ++ '(' :: (params ++ ')' :: (behind ++ '=' :: body))))) ∧
      Identifier name.toList ∧ (∀ c ∈ params, isParenthesis c = false) ∧ '\n' ∉ body := by
  simp only [Option.bind_eq_bind, Option.bind_eq_some_iff, Prod.exists, Option.pure_def, Option.some.injEq,
    Prod.mk.injEq, name?_skipBlanks_iff, group?_skipBlanks_iff, rightSide?_eq_some_iff]
  constructor
  · rintro ⟨_, rest, ⟨⟨gap, hgap, hcs⟩, hname, _⟩, _, rest', ⟨⟨inner, hinner, hrest⟩, hfree⟩, _,
      ⟨⟨behind, hbehind, hrest'⟩, hbody⟩, rfl, rfl, rfl⟩
    exact ⟨⟨gap, inner, behind, hgap, hinner, hbehind, by rw [hcs, hrest, hrest']⟩, hname, hfree, hbody⟩
  · rintro ⟨⟨gap, inner, behind, hgap, hinner, hbehind, hcs⟩, hname, hfree, hbody⟩
    exact ⟨name, _, ⟨⟨gap, hgap, hcs⟩, hname, stops_continuesName hinner rfl _⟩, params, _,
      ⟨⟨inner, hinner, rfl⟩, hfree⟩, body, ⟨⟨behind, hbehind, rfl⟩, hbody⟩, rfl, rfl, rfl⟩

theorem definition?_eq_some_iff {line params body : List Char} {name : String} :
    definition? line = some (name, params, body) ↔ DefinitionLine line name params body := by
  constructor
  · intro h
    unfold definition? at h
    split at h
    · next c rest hkeyword =>
      split at h
      · next hc =>
        obtain ⟨front, hfront, hline⟩ := afterKeyword?_eq_some_iff.mp hkeyword
        obtain ⟨⟨gap, inner, behind, hgap, hinner, hbehind, hrest⟩, hname, hfree, hbody⟩ := header_eq_some_iff.mp h
        refine ⟨hname, hfree, hbody, front, c :: gap, inner, behind, hfront, ?_, by simp, hinner, hbehind, ?_⟩
        · simpa [allBlank, hc] using hgap
        · rw [hline, hrest, List.cons_append]
      · cases h
    · cases h
  · rintro ⟨hname, hfree, hbody, front, gap, inner, behind, hfront, hgap, hne, hinner, hbehind, hline⟩
    cases gap with
    | nil => exact absurd rfl hne
    | cons c gap =>
      rw [allBlank_iff, List.forall_mem_cons, ← allBlank_iff] at hgap
      rw [definition?, afterKeyword?_eq_some_iff.mpr ⟨front, hfront, hline⟩]
      simp only [List.cons_append, hgap.1, if_true]
      exact header_eq_some_iff.mpr ⟨⟨gap, inner, behind, hgap.2, hinner, hbehind, rfl⟩, hname, hfree, hbody⟩

theorem DefinitionLine.unique {line params params' body body' : List Char} {name name' : String}
    (h : DefinitionLine line name params body) (h' : DefinitionLine line name' params' body') :
    name = name' ∧ params = params' ∧ body = body' := by
  rw [← definition?_eq_some_iff] at h h'
  simpa using h.symm.trans h'

theorem AssignmentLine.unique {line expression expression' : List Char} {name name' : String}
    (h : AssignmentLine line name expression) (h' : AssignmentLine line name' expression') :
    name = name' ∧ expression = expression' := by
  rw [← assignment?_eq_some_iff] at h h'
  simpa using h.symm.trans h'

theorem CallLine.unique {line list list' : List Char} {name name' : String}
    (h : CallLine line name list) (h' : CallLine line name' list') : name = name' ∧ list = list' := by
  rw [← call?_eq_some_iff] at h h'
  simpa using h.symm.trans h'

end Command

end DeskCalc
