import DeskCalc.Proofs.Command.Refusals

/-! # Blanks at the ends of a line

The blanks in front of a line mean nothing, and those behind it mean nothing either, unless a line end is among them: a
right side may not go on on another line, so an assignment or a definition with a line end behind it loses its shape.

* `Text.exists_of_append_blanks`: what ends in a visible character stands before the blanks.
* `Command.keywordLine_append_iff`, `Command.definitionLine_append_iff`, `Command.assignmentLine_append_iff`,
  `Command.callLine_append_iff`: the shapes of a line with blanks behind it.
* `Command.HasRightSide`, `Command.Overruns`: a complete right side, and one with a line end behind it.
* `Command.read_trimmed`: any other line is read as its trimmed text.
* `Fault.report`, `Command.read_of_overruns`: these lines are refused, with something else than can be said about their
  trimmed texts.
-/

namespace DeskCalc
open DeskCalc.Number DeskCalc.Text
set_option autoImplicit false

/-! ## Texts -/

namespace Text

variable {behind : List Char}

theorem Stops.append {p : Char → Bool} {cs : List Char} (h : Stops p cs) (hbehind : ∀ b ∈ behind, p b = false) :
    Stops p (cs ++ behind) := by
  cases cs with
  | nil => simpa using stops_append hbehind (stops_nil p)
  | cons c cs => exact stops_cons (h c rfl) _

/-- What ends in a visible character stands before the blanks. -/
theorem exists_of_append_blanks {cs seen rest : List Char} {v : Char} (hbehind : allBlank behind = true)
    (hv : isBlank v = false) (h : cs ++ behind = seen ++ v :: rest) :
    ∃ inner, rest = inner ++ behind ∧ cs = seen ++ v :: inner := by
  rcases List.append_eq_append_iff.mp h with ⟨more, _, hmore⟩ | ⟨more, hcs, hmore⟩
  · have hmem : v ∈ behind := hmore ▸ List.mem_append_right more (.head rest)
    exact absurd hmem (not_mem_of_allBlank hbehind hv)
  · cases more with
    | nil =>
      rw [List.nil_append] at hmore
      have hmem : v ∈ behind := hmore ▸ .head rest
      exact absurd hmem (not_mem_of_allBlank hbehind hv)
    | cons c inner =>
      injection hmore with hc hrest
      exact ⟨inner, hrest, by rw [hcs, hc]⟩

theorem skipBlanks_append {front : List Char} (h : allBlank front = true) (cs : List Char) :
    skipBlanks (front ++ cs) = skipBlanks cs :=
  List.dropWhile_append_of_pos (allBlank_iff.mp h)

theorem allBlank_trim (cs : List Char) : allBlank (trim cs) = allBlank cs := by
  obtain ⟨before, behind, hbefore, hbehind, hcs⟩ := (trimmed_trim cs).blanks
  conv => rhs; rw [hcs]
  rw [Bool.eq_iff_iff, allBlank_iff, allBlank_iff, List.forall_mem_append, List.forall_mem_append, ← allBlank_iff,
    ← allBlank_iff, ← allBlank_iff, hbefore, hbehind]
  simp

end Text

namespace Command

/-! ## Shapes with blanks behind them -/

variable {cs behind : List Char} {name : String}

theorem keywordLine_append_iff (h : allBlank behind = true) : KeywordLine (cs ++ behind) ↔ KeywordLine cs := by
  constructor
  · rintro ⟨blanks, rest, hblanks, hline, hstop⟩
    have hcut : cs ++ behind = (blanks ++ ['d', 'e']) ++ 'f' :: rest := by simpa using hline
    obtain ⟨inner, rfl, hcs⟩ := exists_of_append_blanks h rfl hcut
    exact ⟨blanks, inner, hblanks, by simpa using hcs, hstop.of_append⟩
  · rintro ⟨blanks, rest, hblanks, rfl, hstop⟩
    refine ⟨blanks, rest ++ behind, hblanks, by simp, hstop.append ?_⟩
    exact fun b hb => isWordChar_of_isBlank (allBlank_iff.mp h b hb)

theorem definitionLine_append_iff (h : allBlank behind = true) {params body : List Char} :
    DefinitionLine (cs ++ behind) name params body ↔
      '\n' ∉ behind ∧ ∃ inner, body = inner ++ behind ∧ DefinitionLine cs name params inner := by
  constructor
  · rintro ⟨hname, hparams, hbody, front, gap, between, after, hfront, hgap, hne, hbetween, hafter, hline⟩
    have hcut : cs ++ behind =
        (front ++ 'd' :: 'e' :: 'f' :: (gap ++ (name.toList ++ (between ++ '(' :: (params ++ ')' :: after))))) ++
          '=' :: body := by
      simpa using hline
    obtain ⟨inner, rfl, hcs⟩ := exists_of_append_blanks h rfl hcut
    rw [List.mem_append, not_or] at hbody
    have hcs' : cs = front ++ 'd' :: 'e' :: 'f' :: (gap ++ (name.toList ++ (between ++
        '(' :: (params ++ ')' :: (after ++ '=' :: inner))))) := by
      simpa using hcs
    exact ⟨hbody.2, inner, rfl, hname, hparams, hbody.1, front, gap, between, after, hfront, hgap, hne, hbetween,
      hafter, hcs'⟩
  · rintro ⟨hfree, inner, rfl, hname, hparams, hbody, front, gap, between, after, hfront, hgap, hne, hbetween, hafter,
      rfl⟩
    refine ⟨hname, hparams, ?_, front, gap, between, after, hfront, hgap, hne, hbetween, hafter, by simp⟩
    rw [List.mem_append, not_or]
    exact ⟨hbody, hfree⟩

theorem assignmentLine_append_iff (h : allBlank behind = true) {expression : List Char} :
    AssignmentLine (cs ++ behind) name expression ↔
      '\n' ∉ behind ∧ ∃ inner, expression = inner ++ behind ∧ AssignmentLine cs name inner := by
  constructor
  · rintro ⟨hname, hfree, front, between, hfront, hbetween, hline⟩
    have hcut : cs ++ behind = (front ++ (name.toList ++ between)) ++ '=' :: expression := by simpa using hline
    obtain ⟨inner, rfl, hcs⟩ := exists_of_append_blanks h rfl hcut
    rw [List.mem_append, not_or] at hfree
    exact ⟨hfree.2, inner, rfl, hname, hfree.1, front, between, hfront, hbetween, by simpa using hcs⟩
  · rintro ⟨hfree, inner, rfl, hname, hinner, front, between, hfront, hbetween, rfl⟩
    refine ⟨hname, ?_, front, between, hfront, hbetween, by simp⟩
    rw [List.mem_append, not_or]
    exact ⟨hinner, hfree⟩

theorem callLine_append_iff (h : allBlank behind = true) {list : List Char} :
    CallLine (cs ++ behind) name list ↔ CallLine cs name list := by
  constructor
  · rintro ⟨hname, hfree, front, between, after, hfront, hbetween, hafter, hline⟩
    have hcut : cs ++ behind = (front ++ (name.toList ++ (between ++ '(' :: list))) ++ ')' :: after := by
      simpa using hline
    obtain ⟨inner, rfl, hcs⟩ := exists_of_append_blanks h rfl hcut
    rw [allBlank_iff, List.forall_mem_append, ← allBlank_iff] at hafter
    exact ⟨hname, hfree, front, between, inner, hfront, hbetween, hafter.1, by simpa using hcs⟩
  · rintro ⟨hname, hfree, front, between, after, hfront, hbetween, hafter, rfl⟩
    refine ⟨hname, hfree, front, between, after ++ behind, hfront, hbetween, ?_, by simp⟩
    rw [allBlank_iff, List.forall_mem_append, ← allBlank_iff, ← allBlank_iff]
    exact ⟨hafter, h⟩

theorem hasDefinition_append_iff (h : allBlank behind = true) :
    HasDefinition (cs ++ behind) ↔ '\n' ∉ behind ∧ HasDefinition cs := by
  simp only [HasDefinition, definitionLine_append_iff h]
  grind

theorem hasAssignment_append_iff (h : allBlank behind = true) :
    HasAssignment (cs ++ behind) ↔ '\n' ∉ behind ∧ HasAssignment cs := by
  simp only [HasAssignment, assignmentLine_append_iff h]
  grind

theorem hasCall_append_iff (h : allBlank behind = true) : HasCall (cs ++ behind) ↔ HasCall cs := by
  simp only [HasCall, callLine_append_iff h]

/-! ## Reading with blanks at the ends -/

variable {α : Type} [Scalar α]

theorem readExpression_append_blanks (cs : List Char) (h : allBlank behind = true) :
    (readExpression (cs ++ behind) : Except Fault (List (Token α))) = readExpression cs := by
  have hequals : '=' ∉ behind := not_mem_of_allBlank h rfl
  have hmem : '=' ∈ cs ++ behind ↔ '=' ∈ cs := by simp [hequals]
  simp only [readExpression, hmem, trim_append_blanks cs h, Token.ofChars_append_blanks cs h]

theorem readDefinition_append_blanks (h : allBlank behind = true) (hfree : '\n' ∈ behind → ¬HasDefinition cs) :
    (readDefinition (cs ++ behind) : Except Fault (Command α)) = readDefinition cs := by
  by_cases hdefinition : HasDefinition cs
  · obtain ⟨name, params, body, hline⟩ := hdefinition
    have hfree' : '\n' ∉ behind := fun hend => hfree hend ⟨name, params, body, hline⟩
    have hline' := (definitionLine_append_iff h).mpr ⟨hfree', body, rfl, hline⟩
    rw [readDefinition, readDefinition, definition?_eq_some_iff.mpr hline, definition?_eq_some_iff.mpr hline']
    simp only [readExpression_append_blanks body h]
  · have hdefinition' : ¬HasDefinition (cs ++ behind) := fun hd => hdefinition ((hasDefinition_append_iff h).mp hd).2
    rw [readDefinition, readDefinition, definition?_eq_none hdefinition, definition?_eq_none hdefinition']
    simp only [trim_append_blanks cs h]

/-- The line has a right side, which ends with the line. -/
def HasRightSide (line : List Char) : Prop := HasDefinition line ∨ ¬KeywordLine line ∧ HasAssignment line

/-- Blanks behind a line change nothing but the shape of a right side. -/
theorem readChars_append_blanks (h : allBlank behind = true) (hfree : '\n' ∈ behind → ¬HasRightSide cs) :
    (readChars (cs ++ behind) : Except Fault (Command α)) = readChars cs := by
  by_cases hkeyword : KeywordLine cs
  · rw [readChars_of_keywordLine ((keywordLine_append_iff h).mpr hkeyword), readChars_of_keywordLine hkeyword]
    exact readDefinition_append_blanks h fun hend hdefinition => hfree hend (.inl hdefinition)
  have hkeyword' : ¬KeywordLine (cs ++ behind) := (keywordLine_append_iff h).not.mpr hkeyword
  by_cases hassignment : HasAssignment cs
  · obtain ⟨name, expression, hline⟩ := hassignment
    have hfree' : '\n' ∉ behind := fun hend => hfree hend (.inr ⟨hkeyword, name, expression, hline⟩)
    have hline' := (assignmentLine_append_iff h).mpr ⟨hfree', expression, rfl, hline⟩
    rw [readChars_of_assignmentLine hkeyword hline, readChars_of_assignmentLine hkeyword' hline', readAssignment,
      readAssignment, readExpression_append_blanks expression h]
  have hassignment' : ¬HasAssignment (cs ++ behind) := fun ha => hassignment ((hasAssignment_append_iff h).mp ha).2
  by_cases hcall : HasCall cs
  · obtain ⟨name, list, hline⟩ := hcall
    rw [readChars_of_callLine hkeyword hassignment hline,
      readChars_of_callLine hkeyword' hassignment' ((callLine_append_iff h).mpr hline)]
  · have hcall' : ¬HasCall (cs ++ behind) := (hasCall_append_iff h).not.mpr hcall
    rw [readChars_of_expression hkeyword hassignment hcall, readChars_of_expression hkeyword' hassignment' hcall',
      readExpression_append_blanks cs h]

theorem readChars_blanks_append {front : List Char} (h : allBlank front = true) (cs : List Char) :
    (readChars (front ++ cs) : Except Fault (Command α)) = readChars cs := by
  -- every scanner of a whole line skips the blanks first
  simp only [readChars, readDefinition, isDefinition, definition?, assignment?, call?, afterKeyword?,
    skipBlanks_append h, trim_append h, readExpression_blanks_append h]

/-! ## Right sides with a line end behind them -/

/-- A right side that is complete, and behind it a line end among blanks. -/
def Overruns (line : List Char) : Prop :=
  HasRightSide (trim line) ∧ ∃ front behind, allBlank front = true ∧ allBlank behind = true ∧
    line = front ++ (trim line ++ behind) ∧ '\n' ∈ behind

theorem readChars_of_lost_definition (h : allBlank behind = true) (hend : '\n' ∈ behind)
    (hdefinition : HasDefinition cs) :
    (readChars (cs ++ behind) : Except Fault (Command α)) =
      .error (.malformedDefinition (String.ofList (trim cs))) := by
  obtain ⟨name, params, body, hline⟩ := hdefinition
  have hlost : ¬HasDefinition (cs ++ behind) := fun hd => ((hasDefinition_append_iff h).mp hd).1 hend
  rw [readChars_of_keywordLine ((keywordLine_append_iff h).mpr hline.keywordLine),
    readDefinition_of_not_hasDefinition hlost, trim_append_blanks cs h]

/-- What is left has no shape that an equals sign could have a place in. -/
theorem readChars_of_lost_assignment (h : allBlank behind = true) (hend : '\n' ∈ behind) (hkeyword : ¬KeywordLine cs)
    (hassignment : HasAssignment cs) :
    (readChars (cs ++ behind) : Except Fault (Command α)) = .error (.strayEquals (String.ofList (trim cs))) := by
  have hkeyword' : ¬KeywordLine (cs ++ behind) := (keywordLine_append_iff h).not.mpr hkeyword
  have hlost : ¬HasAssignment (cs ++ behind) := fun ha => ((hasAssignment_append_iff h).mp ha).1 hend
  have hcall : ¬HasCall (cs ++ behind) := by
    rw [hasCall_append_iff h]
    rintro ⟨name, list, hcall⟩
    exact hcall.not_hasAssignment hassignment
  have hequals : '=' ∈ cs := by
    obtain ⟨name, expression, hline⟩ := hassignment
    obtain ⟨front, inner, _, _, rfl⟩ := hline.spelled
    simp
  rw [readChars_of_expression hkeyword' hlost hcall, map_eq_error_iff, readExpression_eq_error_iff,
    trim_append_blanks cs h]
  exact ⟨List.mem_append_left _ hequals, rfl⟩

end Command

/-! ## Reports -/

/-- What is told about a fault. -/
def Fault.report (fault : Fault) : Fault.Kind × String := (fault.kind, fault.message)

namespace Fault

theorem report_ne {fault other : Fault} (h : fault.message.toList ≠ other.message.toList) :
    fault.report ≠ other.report :=
  fun hreport => h (congrArg (fun r => r.2.toList) hreport)

theorem report_reservedName_ne (text : String) :
    (reservedName Command.keyword).report ≠ (malformedDefinition text).report := by
  apply report_ne
  show ("def" ++ " is a keyword and cannot be used as name").toList ≠ ("invalid function definition " ++ text).toList
  simp

theorem report_strayEquals_ne (piece text : String) :
    (strayEquals piece).report ≠ (malformedDefinition text).report := by
  apply report_ne
  show ("unexpected '=' in " ++ piece).toList ≠ ("invalid function definition " ++ text).toList
  simp

end Fault

namespace Command

variable {cs : List Char}

theorem ParameterFault.report_ne {p : List Char} {fault : Fault} (h : ParameterFault p fault) (text : String) :
    fault.report ≠ (Fault.malformedDefinition text).report := by
  cases h with
  | reserved => exact Fault.report_reservedName_ne text
  | malformed =>
    apply Fault.report_ne
    show ("invalid parameter name '" ++ String.ofList p ++ "'").toList ≠ ("invalid function definition " ++ text).toList
    simp
  | repeated =>
    apply Fault.report_ne
    show ("duplicate parameter " ++ String.ofList p).toList ≠ ("invalid function definition " ++ text).toList
    simp

theorem DefinitionFault.report_ne {name : String} {params body : List Char} {fault : Fault}
    (h : DefinitionFault name params body fault) (text : String) :
    fault.report ≠ (Fault.malformedDefinition text).report := by
  cases h with
  | reserved => exact Fault.report_reservedName_ne text
  | equals => exact Fault.report_strayEquals_ne _ text
  | empty =>
    apply Fault.report_ne
    show ("function " ++ name ++ " has an empty body").toList ≠ ("invalid function definition " ++ text).toList
    simp
  | parameter _ h => exact h.report_ne text

/-- A definition is told that it is none only if it is none. -/
theorem Refusal.report_ne_of_hasDefinition {fault : Fault} (h : Refusal cs fault) (hdefinition : HasDefinition cs)
    (text : String) : fault.report ≠ (Fault.malformedDefinition text).report := by
  cases h with
  | header _ hnone => exact absurd hdefinition hnone
  | definition _ h => exact h.report_ne text
  | assignment hkeyword =>
    obtain ⟨name, params, body, hline⟩ := hdefinition
    exact absurd hline.keywordLine hkeyword
  | @call name list =>
    apply Fault.report_ne
    show ("empty argument in call of " ++ name).toList ≠ ("invalid function definition " ++ text).toList
    simp
  | expression => exact Fault.report_strayEquals_ne _ text

theorem AssignmentFault.report_ne {name : String} {expression : List Char} {fault : Fault}
    (h : AssignmentFault name expression fault) (hline : AssignmentLine cs name expression) :
    fault.report ≠ (Fault.strayEquals (String.ofList (trim cs))).report := by
  apply Fault.report_ne
  cases h with
  | equals =>
    -- the line has one equals sign more than its expression
    have hcount : (trim expression).count '=' < (trim cs).count '=' := by
      have hvisible : isBlank '=' = false := rfl
      obtain ⟨front, inner, _, _, rfl⟩ := hline.spelled
      simp only [count_trim hvisible, List.count_append, List.count_cons_self]
      omega
    show ("unexpected '=' in " ++ String.ofList (trim expression)).toList ≠
      ("unexpected '=' in " ++ String.ofList (trim cs)).toList
    intro htext
    have htrim : trim expression = trim cs := by simpa using htext
    rw [htrim] at hcount
    exact Nat.lt_irrefl _ hcount
  | empty =>
    show ("nothing to assign to " ++ name).toList ≠ ("unexpected '=' in " ++ String.ofList (trim cs)).toList
    simp

/-- An assignment is never told that its own equals sign has no place. -/
theorem Refusal.report_ne_of_hasAssignment {fault : Fault} (h : Refusal cs fault) (hkeyword : ¬KeywordLine cs)
    (hassignment : HasAssignment cs) : fault.report ≠ (Fault.strayEquals (String.ofList (trim cs))).report := by
  cases h with
  | header hkeyword' => exact absurd hkeyword' hkeyword
  | definition hline => exact absurd hline.keywordLine hkeyword
  | assignment _ hline h => exact h.report_ne hline
  | call hline => exact absurd hassignment hline.not_hasAssignment
  | expression hnone => exact absurd hassignment hnone

/-! ## Lines and their trimmed texts -/

variable {α : Type} [Scalar α]

theorem HasRightSide.not_allBlank {cs : List Char} (h : HasRightSide cs) : allBlank cs = false := by
  rcases h with ⟨name, params, body, hline⟩ | ⟨_, name, expression, hline⟩
  · exact hline.keywordLine.not_allBlank
  · exact hline.not_allBlank

/-- A line without a line end behind its right side is read as its trimmed text. -/
theorem readChars_trim {cs : List Char} (h : ¬Overruns cs) :
    (readChars (trim cs) : Except Fault (Command α)) = readChars cs := by
  obtain ⟨front, behind, hfront, hbehind, hcs⟩ := (trimmed_trim cs).blanks
  have hfree : '\n' ∈ behind → ¬HasRightSide (trim cs) :=
    fun hend hright => h ⟨hright, front, behind, hfront, hbehind, hcs, hend⟩
  conv => rhs; rw [hcs]
  rw [readChars_blanks_append hfront, readChars_append_blanks hbehind hfree]

/-- Any other line is refused, and not with what there may be to say about the trimmed text. -/
theorem readChars_of_overruns {cs : List Char} (h : Overruns cs) :
    ∃ fault, (readChars cs : Except Fault (Command α)) = .error fault ∧
      ∀ other, (readChars (trim cs) : Except Fault (Command α)) = .error other → other.report ≠ fault.report := by
  obtain ⟨hright, front, behind, hfront, hbehind, hcs, hend⟩ := h
  have hread : (readChars cs : Except Fault (Command α)) = readChars (trim cs ++ behind) := by
    conv => lhs; rw [hcs]
    rw [readChars_blanks_append hfront]
  rw [hread]
  rcases hright with hdefinition | ⟨hkeyword, hassignment⟩
  · refine ⟨_, readChars_of_lost_definition hbehind hend hdefinition, fun other hother => ?_⟩
    exact (refusal_of_readChars hother).report_ne_of_hasDefinition hdefinition _
  · refine ⟨_, readChars_of_lost_assignment hbehind hend hkeyword hassignment, fun other hother => ?_⟩
    exact (refusal_of_readChars hother).report_ne_of_hasAssignment hkeyword hassignment

theorem read_trimmed {line : String} (h : ¬Overruns line.toList) :
    (read (trimmed line) : Except Fault (Option (Command α))) = read line := by
  rw [read, read, trimmed, String.toList_ofList, allBlank_trim, readChars_trim h]

theorem read_of_overruns {line : String} (h : Overruns line.toList) :
    ∃ fault, (read line : Except Fault (Option (Command α))) = .error fault ∧
      ∀ other, (read (trimmed line) : Except Fault (Option (Command α))) = .error other →
        other.report ≠ fault.report := by
  obtain ⟨fault, hfault, hothers⟩ := readChars_of_overruns (α := α) h
  have hblank : allBlank line.toList = false := (allBlank_trim _).symm.trans h.1.not_allBlank
  refine ⟨fault, read_eq_error_iff.mpr ⟨hblank, hfault⟩, fun other hother => hothers other ?_⟩
  have hother := (read_eq_error_iff.mp hother).2
  rwa [trimmed, String.toList_ofList] at hother

end Command

end DeskCalc
