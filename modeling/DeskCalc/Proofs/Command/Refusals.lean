import DeskCalc.Proofs.Command.Spelling

/-! # Refused lines

What a line that is refused is told, for each of its shapes.

* `Command.ParameterFault`, `Command.DefinitionFault`, `Command.AssignmentFault`: the faults of the parts of a shape.
* `Command.Refusal`: the faults of a line. `Command.refusal_of_read` says that there are no others.
-/

namespace DeskCalc
open DeskCalc.Number DeskCalc.Text
set_option autoImplicit false

namespace Command

/-! ## Binds -/

theorem bind_eq_error_iff {β γ : Type} {x : Except Fault β} {f : β → Except Fault γ} {fault : Fault} :
    x >>= f = .error fault ↔ x = .error fault ∨ ∃ b, x = .ok b ∧ f b = .error fault := by
  cases x with
  | ok b =>
    refine ⟨fun h => .inr ⟨b, rfl, h⟩, ?_⟩
    rintro (h | ⟨_, hb, h⟩)
    · cases h
    · cases hb
      exact h
  | error fault' =>
    refine ⟨fun h => .inl (by cases h; rfl), ?_⟩
    rintro (h | ⟨_, hb, _⟩)
    · cases h
      rfl
    · cases hb

theorem map_eq_error_iff {β γ : Type} {x : Except Fault β} {f : β → γ} {fault : Fault} :
    f <$> x = .error fault ↔ x = .error fault := by
  cases x with
  | ok b => exact ⟨fun h => (nomatch h), fun h => (nomatch h)⟩
  | error fault' => exact ⟨fun h => by cases h; rfl, fun h => by cases h; rfl⟩

/-! ## Parts -/

inductive ParameterFault (p : List Char) : Fault → Prop where
  | reserved (h : String.ofList p = keyword) : ParameterFault p (.reservedName keyword)
  | malformed (h : ¬Identifier p) : ParameterFault p (.malformedParameter (String.ofList p))
  | repeated (h : Identifier p) : ParameterFault p (.repeatedParameter (String.ofList p))

inductive DefinitionFault (name : String) (params body : List Char) : Fault → Prop where
  | reserved (h : name = keyword) : DefinitionFault name params body (.reservedName keyword)
  | equals (h : '=' ∈ body) : DefinitionFault name params body (.strayEquals (String.ofList (trim body)))
  | empty (h : allBlank body = true) : DefinitionFault name params body (.emptyBody name)
  | parameter {p : List Char} (hp : p ∈ items params) {fault : Fault} (h : ParameterFault p fault) :
    DefinitionFault name params body fault

inductive AssignmentFault (name : String) (expression : List Char) : Fault → Prop where
  | equals (h : '=' ∈ expression) : AssignmentFault name expression (.strayEquals (String.ofList (trim expression)))
  | empty (h : allBlank expression = true) : AssignmentFault name expression (.emptyAssignment name)

def HasDefinition (line : List Char) : Prop := ∃ name params body, DefinitionLine line name params body

/-- The faults of a line, by its first shape. -/
inductive Refusal (line : List Char) : Fault → Prop where
  | header (hkeyword : KeywordLine line) (h : ¬HasDefinition line) :
    Refusal line (.malformedDefinition (String.ofList (trim line)))
  | definition {name : String} {params body : List Char} (hline : DefinitionLine line name params body) {fault : Fault}
    (h : DefinitionFault name params body fault) : Refusal line fault
  | assignment {name : String} {expression : List Char} (hkeyword : ¬KeywordLine line)
    (hline : AssignmentLine line name expression) {fault : Fault} (h : AssignmentFault name expression fault) :
    Refusal line fault
  | call {name : String} {list : List Char} (hline : CallLine line name list) (h : [] ∈ items list) :
    Refusal line (.emptyArgument name)
  | expression (hassignment : ¬HasAssignment line) (h : '=' ∈ line) :
    Refusal line (.strayEquals (String.ofList (trim line)))

variable {α : Type} [Scalar α]

theorem readExpression_eq_error_iff {cs : List Char} {fault : Fault} :
    (readExpression cs : Except Fault (List (Token α))) = .error fault ↔
      '=' ∈ cs ∧ fault = .strayEquals (String.ofList (trim cs)) := by
  rw [readExpression]
  by_cases h : '=' ∈ cs
  · simp [h, eq_comm]
  · simp [h]

theorem readParams_eq_error {known : List String} {ps : List (List Char)} {fault : Fault}
    (h : readParams known ps = .error fault) : ∃ p ∈ ps, ParameterFault p fault := by
  induction ps generalizing known with
  | nil => cases h
  | cons p ps ih =>
    rw [readParams] at h
    by_cases hkey : String.ofList p = keyword
    · rw [if_pos hkey, hkey] at h
      cases h
      exact ⟨p, .head _, .reserved hkey⟩
    rw [if_neg hkey] at h
    by_cases hname : isName p = true
    · rw [hname, Bool.not_true, if_neg Bool.false_ne_true] at h
      by_cases hknown : String.ofList p ∈ known
      · rw [if_pos hknown] at h
        cases h
        exact ⟨p, .head _, .repeated (isName_iff.mp hname)⟩
      · rw [if_neg hknown] at h
        rcases bind_eq_error_iff.mp h with h | ⟨_, _, h⟩
        · obtain ⟨q, hq, hfault⟩ := ih h
          exact ⟨q, .tail _ hq, hfault⟩
        · cases h
    · rw [Bool.not_eq_true] at hname
      rw [hname, Bool.not_false, if_pos rfl] at h
      cases h
      refine ⟨p, .head _, .malformed fun hp => ?_⟩
      rw [isName_iff.mpr hp] at hname
      cases hname

theorem definition?_eq_none {line : List Char} (h : ¬HasDefinition line) : definition? line = none := by
  cases hparts : definition? line with
  | none => rfl
  | some parts => exact absurd ⟨parts.1, parts.2.1, parts.2.2, definition?_eq_some_iff.mp hparts⟩ h

theorem readDefinition_of_not_hasDefinition {line : List Char} (h : ¬HasDefinition line) :
    (readDefinition line : Except Fault (Command α)) = .error (.malformedDefinition (String.ofList (trim line))) := by
  rw [readDefinition, definition?_eq_none h]

theorem readDefinition_eq_error {line params body : List Char} {name : String} {fault : Fault}
    (hline : DefinitionLine line name params body)
    (h : (readDefinition line : Except Fault (Command α)) = .error fault) : DefinitionFault name params body fault := by
  rw [readDefinition, definition?_eq_some_iff.mpr hline] at h
  dsimp only at h
  by_cases hkey : name = keyword
  · rw [if_pos hkey, hkey] at h
    cases h
    exact .reserved hkey
  rw [if_neg hkey] at h
  rcases bind_eq_error_iff.mp h with h | ⟨tokens, htokens, h⟩
  · obtain ⟨hequals, rfl⟩ := readExpression_eq_error_iff.mp h
    exact .equals hequals
  obtain ⟨_, rfl⟩ := readExpression_eq_ok_iff.mp htokens
  by_cases hempty : (Token.ofChars body : List (Token α)).isEmpty = true
  · rw [if_pos hempty] at h
    cases h
    exact .empty (isEmpty_ofChars_iff.mp hempty)
  rw [if_neg hempty] at h
  rcases bind_eq_error_iff.mp h with h | ⟨_, _, h⟩
  · obtain ⟨p, hp, hfault⟩ := readParams_eq_error h
    exact .parameter hp hfault
  · cases h

theorem readAssignment_eq_error {name : String} {expression : List Char} {fault : Fault}
    (h : (readAssignment name expression : Except Fault (Command α)) = .error fault) :
    AssignmentFault name expression fault := by
  rcases bind_eq_error_iff.mp h with h | ⟨tokens, htokens, h⟩
  · obtain ⟨hequals, rfl⟩ := readExpression_eq_error_iff.mp h
    exact .equals hequals
  · obtain ⟨_, rfl⟩ := readExpression_eq_ok_iff.mp htokens
    split at h
    · next hempty =>
      cases h
      exact .empty (isEmpty_ofChars_iff.mp hempty)
    · cases h

omit [Scalar α] in
theorem readCall_eq_error_iff {name : String} {list : List Char} {fault : Fault} :
    (readCall name list : Except Fault (Command α)) = .error fault ↔ [] ∈ items list ∧ fault = .emptyArgument name := by
  rw [readCall]
  by_cases h : [] ∈ items list
  · simp [h, eq_comm]
  · simp [h]

/-! ## Lines -/

theorem refusal_of_readChars {line : List Char} {fault : Fault}
    (h : (readChars line : Except Fault (Command α)) = .error fault) : Refusal line fault := by
  by_cases hkeyword : KeywordLine line
  · rw [readChars_of_keywordLine hkeyword] at h
    by_cases hdefinition : HasDefinition line
    · obtain ⟨name, params, body, hline⟩ := hdefinition
      exact .definition hline (readDefinition_eq_error hline h)
    · rw [readDefinition_of_not_hasDefinition hdefinition] at h
      cases h
      exact .header hkeyword hdefinition
  by_cases hassignment : HasAssignment line
  · obtain ⟨name, expression, hline⟩ := hassignment
    rw [readChars_of_assignmentLine hkeyword hline] at h
    exact .assignment hkeyword hline (readAssignment_eq_error h)
  by_cases hcall : HasCall line
  · obtain ⟨name, list, hline⟩ := hcall
    rw [readChars_of_callLine hkeyword hassignment hline] at h
    obtain ⟨hempty, rfl⟩ := readCall_eq_error_iff.mp h
    exact .call hline hempty
  · rw [readChars_of_expression hkeyword hassignment hcall] at h
    obtain ⟨hequals, rfl⟩ := readExpression_eq_error_iff.mp (map_eq_error_iff.mp h)
    exact .expression hassignment hequals

theorem read_eq_error_iff {line : String} {fault : Fault} :
    (read line : Except Fault (Option (Command α))) = .error fault ↔
      allBlank line.toList = false ∧ (readChars line.toList : Except Fault (Command α)) = .error fault := by
  rw [read]
  cases hblank : allBlank line.toList with
  | true => simp
  | false => simpa using map_eq_error_iff

theorem refusal_of_read {line : String} {fault : Fault}
    (h : (read line : Except Fault (Option (Command α))) = .error fault) : Refusal line.toList fault :=
  refusal_of_readChars (read_eq_error_iff.mp h).2

/-- A line is refused because of what it is, not because of what has been entered before. -/
theorem Refusal.kind_eq {line : List Char} {fault : Fault} (h : Refusal line fault) : fault.kind = .malformedLine := by
  cases h with
  | header | call | expression => rfl
  | definition _ h =>
    cases h with
    | reserved | equals | empty => rfl
    | parameter _ h => cases h <;> rfl
  | assignment _ _ h => cases h <;> rfl

end Command

end DeskCalc
