import DeskCalc.Proofs.Command.Refusals

/-! # The place of an equals sign

An equals sign has its place behind the name of an assignment, or behind the header of a definition. Anywhere else it
makes a line malformed, except among the arguments of a call, which may be any texts.

* `Command.read_eq_call_iff`: the lines that are calls.
* `Command.EqualsInPlace`: an equals sign that is in its place. `Command.equalsInPlace_of_readChars`: there is no other
  one beside it.
* `Command.placed_or_refused_iff`: the lines with an equals sign, and what is read from them.
-/

namespace DeskCalc
open DeskCalc.Number DeskCalc.Text
set_option autoImplicit false

namespace Command

/-! ## Calls -/

theorem CallLine.beginsWith {line list : List Char} {name : String} (h : CallLine line name list) :
    ∃ rest, BeginsWith line name rest := by
  obtain ⟨front, inner, behind, hfront, hinner, _, hline⟩ := h.spelled
  exact ⟨_, ⟨front, hfront, hline⟩, h.identifier, stops_continuesName hinner rfl _⟩

/-- A call of the keyword would be a definition. -/
theorem CallLine.keywordLine_iff {line list : List Char} {name : String} (h : CallLine line name list) :
    KeywordLine line ↔ name = keyword := by
  constructor
  · intro hkeyword
    obtain ⟨rest, hcall⟩ := h.beginsWith
    obtain ⟨rest', hdefinition⟩ := hkeyword.beginsWith
    exact (hcall.unique hdefinition).1
  · rintro rfl
    obtain ⟨front, inner, behind, hfront, hinner, _, hline⟩ := h.spelled
    have hparenthesis : isWordChar '(' = false := by decide +kernel
    refine ⟨front, inner ++ '(' :: (list ++ ')' :: behind), hfront, hline, ?_⟩
    apply stops_append
    · intro b hb
      exact isWordChar_of_isBlank (allBlank_iff.mp hinner b hb)
    · exact stops_cons hparenthesis _

variable {α : Type}

theorem readChars_eq_call_iff [Scalar α] {line : List Char} {name : String} {arguments : List String} :
    (readChars line : Except Fault (Command α)) = .ok (.call name arguments) ↔
      ∃ list, name ≠ keyword ∧ CallLine line name list ∧ [] ∉ items list ∧
        arguments = (items list).map String.ofList := by
  constructor
  · intro h
    by_cases hkeyword : KeywordLine line
    · rw [readChars_of_keywordLine hkeyword] at h
      obtain ⟨_, _, _, _, _, _, _, _, hcommand⟩ := readDefinition_eq_ok_iff.mp h
      cases hcommand
    · obtain ⟨_, _, hc⟩ | ⟨_, _, _, _, _, hc⟩ | ⟨_, list, hline, hempty, hc⟩ | ⟨_, hc⟩ := readChars_cases h <;> cases hc
      exact ⟨list, hline.keywordLine_iff.not.mp hkeyword, hline, hempty, rfl⟩
  · rintro ⟨list, hname, hline, hempty, rfl⟩
    rw [readChars_of_callLine (hline.keywordLine_iff.not.mpr hname) hline.not_hasAssignment hline, readCall_eq_ok_iff]
    exact ⟨hempty, rfl⟩

theorem read_eq_call_iff [Scalar α] {line name : String} {arguments : List String} :
    (read line : Except Fault (Option (Command α))) = .ok (some (.call name arguments)) ↔
      ∃ list, name ≠ keyword ∧ CallLine line.toList name list ∧ [] ∉ items list ∧
        arguments = (items list).map String.ofList := by
  rw [read_eq_some_iff, readChars_eq_call_iff]
  constructor
  · exact And.right
  · intro h
    obtain ⟨_, _, hline, _⟩ := id h
    exact ⟨hline.not_allBlank, h⟩

/-! ## Places -/

/-- The line assigns or defines something, and its equals sign stands behind the name or the header. -/
inductive EqualsInPlace (line : List Char) : Command α → Prop where
  | assign {name : String} {expression : List Char} {tokens : List (Token α)}
    (hline : AssignmentLine line name expression) : EqualsInPlace line (.assign name tokens)
  | define {formula : Formula α} {params body : List Char} (hline : DefinitionLine line formula.name params body) :
    EqualsInPlace line (.define formula)

theorem count_of_allBlank {cs : List Char} (h : allBlank cs = true) : cs.count '=' = 0 := by
  have hvisible : isBlank '=' = false := rfl
  exact List.count_eq_zero.mpr (not_mem_of_allBlank h hvisible)

theorem count_of_identifier {cs : List Char} (h : Identifier cs) : cs.count '=' = 0 := by
  rw [List.count_eq_zero]
  intro hmem
  cases continuesName_of_identifier h '=' hmem

/-- Parameters are names, so there is no equals sign between them. -/
theorem ParameterList.count_eq {params : List Char} (h : ParameterList (items params)) : params.count '=' = 0 := by
  rw [List.count_eq_zero]
  intro hmem
  have hvisible : isBlank '=' = false := rfl
  obtain ⟨p, hp, hequals⟩ := exists_mem_items hmem hvisible (by decide)
  cases continuesName_of_identifier (h.1 p hp).1 '=' hequals

theorem AssignmentLine.count_eq {line expression : List Char} {name : String}
    (h : AssignmentLine line name expression) (hequals : '=' ∉ expression) : line.count '=' = 1 := by
  have hexpression : expression.count '=' = 0 := List.count_eq_zero.mpr hequals
  obtain ⟨front, inner, hfront, hinner, rfl⟩ := h.spelled
  simp [count_of_allBlank hfront, count_of_allBlank hinner, count_of_identifier h.identifier, hexpression]

theorem DefinitionLine.count_eq {line params body : List Char} {name : String}
    (h : DefinitionLine line name params body) (hparams : ParameterList (items params)) (hequals : '=' ∉ body) :
    line.count '=' = 1 := by
  have hbody : body.count '=' = 0 := List.count_eq_zero.mpr hequals
  obtain ⟨front, gap, inner, behind, hfront, hgap, _, hinner, hbehind, rfl⟩ := h.spelled
  simp [count_of_allBlank hfront, count_of_allBlank hgap, count_of_allBlank hinner, count_of_allBlank hbehind,
    count_of_identifier h.identifier, hparams.count_eq, hbody]

variable [Scalar α]

theorem equalsInPlace_of_readChars {line : List Char} {command : Command α} (h : readChars line = .ok command)
    (hequals : '=' ∈ line) (hcall : ∀ name arguments, command ≠ .call name arguments) :
    line.count '=' = 1 ∧ EqualsInPlace line command := by
  obtain ⟨f, hdefines, rfl⟩ | ⟨name, expression, _, hline, hfree, rfl⟩ | ⟨name, list, _, _, rfl⟩ | ⟨hnone, _⟩ :=
    readChars_cases h
  · obtain ⟨name, params, body, ps, hline, hlist, _, hfree, _, hparams, rfl⟩ := hdefines
    rw [← items_eq_iff.mpr hlist] at hparams
    exact ⟨hline.count_eq hparams hfree, .define hline⟩
  · exact ⟨hline.count_eq hfree, .assign hline⟩
  · exact absurd rfl (hcall name _)
  · exact absurd hequals hnone

/-! ## Lines with an equals sign -/

theorem CallLine.mem_list {line list : List Char} {name : String} (h : CallLine line name list) (hequals : '=' ∈ line) :
    '=' ∈ list := by
  have hvisible : isBlank '=' = false := rfl
  obtain ⟨front, inner, behind, hfront, hinner, hbehind, rfl⟩ := h.spelled
  have hname : '=' ∉ name.toList := List.count_eq_zero.mp (count_of_identifier h.identifier)
  simpa [not_mem_of_allBlank hfront hvisible, not_mem_of_allBlank hinner hvisible, not_mem_of_allBlank hbehind hvisible,
    hname] using hequals

/-- A line with an equals sign is refused, or it has just this one, in its place, unless it calls something with
arguments none of which is empty. Such a call is read, and has the equals sign in an argument. -/
theorem placed_or_refused_iff (line : String) (h : '=' ∈ line.toList) :
    ((Refused (read line : Except Fault (Option (Command α))) ∨
        ∃ command : Command α, read line = .ok (some command) ∧ line.toList.count '=' = 1 ∧
          EqualsInPlace line.toList command) ↔
      ¬∃ name list, name ≠ keyword ∧ CallLine line.toList name list ∧ [] ∉ items list) ∧
    ∀ name list, name ≠ keyword → CallLine line.toList name list → [] ∉ items list →
      (read line : Except Fault (Option (Command α))) = .ok (some (.call name ((items list).map String.ofList))) ∧
        ∃ argument ∈ items list, '=' ∈ argument := by
  have hcalls : ∀ name list, name ≠ keyword → CallLine line.toList name list → [] ∉ items list →
      (read line : Except Fault (Option (Command α))) = .ok (some (.call name ((items list).map String.ofList))) :=
    fun name list hname hline hempty => read_eq_call_iff.mpr ⟨list, hname, hline, hempty, rfl⟩
  refine ⟨⟨?_, fun hnone => ?_⟩, fun name list hname hline hempty => ⟨hcalls name list hname hline hempty, ?_⟩⟩
  · rintro hread ⟨name, list, hname, hline, hempty⟩
    rw [hcalls name list hname hline hempty] at hread
    rcases hread with ⟨fault, hfault, _⟩ | ⟨command, hcommand, _, hplaced⟩
    · cases hfault
    · cases hcommand
      cases hplaced
  · cases hread : (read line : Except Fault (Option (Command α))) with
    | error fault => exact .inl ⟨fault, rfl, (refusal_of_read hread).kind_eq⟩
    | ok read =>
      cases read with
      | none =>
        have hblank := (reads_line (α := α) line).1.blank.mp hread
        have hvisible : isBlank '=' = false := rfl
        exact absurd h (not_mem_of_allBlank hblank hvisible)
      | some command =>
        refine .inr ⟨command, rfl, equalsInPlace_of_readChars (read_eq_some_iff.mp hread).2 h ?_⟩
        rintro name arguments rfl
        obtain ⟨list, hname, hline, hempty, _⟩ := read_eq_call_iff.mp hread
        exact hnone ⟨name, list, hname, hline, hempty⟩
  · have hvisible : isBlank '=' = false := rfl
    exact exists_mem_items (hline.mem_list h) hvisible (by decide)

/-- An assignment with one equals sign. -/
theorem placed_or_refused_assignment :
    '=' ∈ " x = 1".toList ∧
      (Refused (read " x = 1" : Except Fault (Option (Command Float))) ∨
        ∃ command : Command Float, read " x = 1" = .ok (some command) ∧ " x = 1".toList.count '=' = 1 ∧
          EqualsInPlace " x = 1".toList command) := by
  refine ⟨by decide, (placed_or_refused_iff " x = 1" (by decide)).1.mpr ?_⟩
  rintro ⟨name, list, _, hline, _⟩
  have hcall : call? " x = 1".toList = none := by decide +kernel
  rw [call?_eq_some_iff.mpr hline] at hcall
  cases hcall

/-- An argument may be what is no assignment elsewhere. -/
theorem not_placed_or_refused_call :
    '=' ∈ "f(a=1)".toList ∧
      (read "f(a=1)" : Except Fault (Option (Command Float))) = .ok (some (.call "f" ["a=1"])) ∧
      ¬(Refused (read "f(a=1)" : Except Fault (Option (Command Float))) ∨
        ∃ command : Command Float, read "f(a=1)" = .ok (some command) ∧ "f(a=1)".toList.count '=' = 1 ∧
          EqualsInPlace "f(a=1)".toList command) := by
  have hread : (read "f(a=1)" : Except Fault (Option (Command Float))) = .ok (some (.call "f" ["a=1"])) := by
    decide +kernel
  refine ⟨by decide, hread, ?_⟩
  rw [hread]
  rintro (⟨fault, hfault, _⟩ | ⟨command, hcommand, _, hplaced⟩)
  · cases hfault
  · cases hcommand
    cases hplaced

end Command

end DeskCalc
