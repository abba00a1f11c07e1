import DeskCalc.Proofs.Command.Shapes
import DeskCalc.Proofs.Token.OnePass

/-! # Reading a line

What is read from a line depends on the first of its shapes only: definition, assignment, call, expression. A line that
has a shape, but not the parts that the shape asks for, is refused.

* `readParams_eq_ok_iff`, `readDefinition_eq_ok_iff`, `readAssignment_eq_ok_iff`, `readCall_eq_ok_iff`: what each shape
  asks for.
* `LineFaults`: reading has no other faults than those of a malformed line.
* `Reads`: what is read from a line, said by its shapes; `reads_line` says that this is what is read.
-/

namespace DeskCalc
open DeskCalc.Number DeskCalc.Text
set_option autoImplicit false

namespace Command

/-! ## Faults -/

/-- If it fails, the line is at fault. -/
def LineFaults {β : Type} (x : Except Fault β) : Prop := ∀ fault, x = .error fault → fault.kind = .malformedLine

theorem lineFaults_ok {β : Type} (b : β) : LineFaults (.ok b) := fun _ h => nomatch h

theorem lineFaults_error {β : Type} {fault : Fault} (h : fault.kind = .malformedLine) :
    LineFaults (.error fault : Except Fault β) := by
  intro f hf
  cases hf
  exact h

theorem bind_eq_ok_iff {β γ : Type} {x : Except Fault β} {f : β → Except Fault γ} {c : γ} :
    x >>= f = .ok c ↔ ∃ b, x = .ok b ∧ f b = .ok c := by
  cases x with
  | ok b =>
    refine ⟨fun h => ⟨b, rfl, h⟩, ?_⟩
    rintro ⟨b', hb, h⟩
    cases hb
    exact h
  | error fault => exact ⟨fun h => (nomatch h), fun ⟨_, h, _⟩ => (nomatch h)⟩

theorem LineFaults.bind {β γ : Type} {x : Except Fault β} {f : β → Except Fault γ} (hx : LineFaults x)
    (hf : ∀ b, LineFaults (f b)) : LineFaults (x >>= f) := by
  cases x with
  | ok b => exact hf b
  | error fault => exact lineFaults_error (hx fault rfl)

/-- Nothing is read, and the line is at fault. -/
def Refused {β : Type} (x : Except Fault β) : Prop := ∃ fault, x = .error fault ∧ fault.kind = .malformedLine

theorem LineFaults.refused {β : Type} {x : Except Fault β} (hx : LineFaults x) (h : ∀ b, x ≠ .ok b) : Refused x := by
  cases x with
  | ok b => exact absurd rfl (h b)
  | error fault => exact ⟨fault, rfl, hx fault rfl⟩

/-! ## Parts -/

variable {α : Type} [Scalar α]

theorem readExpression_eq_ok_iff {cs : List Char} {ts : List (Token α)} :
    readExpression cs = .ok ts ↔ '=' ∉ cs ∧ Token.ofChars cs = ts := by
  rw [readExpression]
  by_cases h : '=' ∈ cs
  · simp [h]
  · simp [h]

theorem lineFaults_readExpression (cs : List Char) : LineFaults (readExpression cs : Except Fault (List (Token α))) := by
  rw [readExpression]
  split
  · exact lineFaults_error rfl
  · exact lineFaults_ok _

/-- Different names, none of them the keyword. -/
def ParameterList (ps : List (List Char)) : Prop :=
  (∀ p ∈ ps, Identifier p ∧ String.ofList p ≠ keyword) ∧ ps.Nodup

theorem parameterList_cons_iff {p : List Char} {ps : List (List Char)} :
    ParameterList (p :: ps) ↔ Identifier p ∧ String.ofList p ≠ keyword ∧ p ∉ ps ∧ ParameterList ps := by
  rw [ParameterList, List.forall_mem_cons, List.nodup_cons]
  constructor
  · rintro ⟨⟨⟨hname, hkey⟩, hps⟩, hp, hnodup⟩
    exact ⟨hname, hkey, hp, hps, hnodup⟩
  · rintro ⟨hname, hkey, hp, hps, hnodup⟩
    exact ⟨⟨⟨hname, hkey⟩, hps⟩, hp, hnodup⟩

theorem readParams_eq_ok_iff {known names : List String} {ps : List (List Char)} :
    readParams known ps = .ok names ↔
      ParameterList ps ∧ (∀ p ∈ ps, String.ofList p ∉ known) ∧ names = ps.map String.ofList := by
  -- every parameter is known to those behind it, so two equal ones meet there
  induction ps generalizing known names with
  | nil =>
    rw [readParams]
    constructor
    · intro h
      cases h
      exact ⟨⟨fun _ h => (nomatch h), .nil⟩, fun _ h => (nomatch h), rfl⟩
    · rintro ⟨_, _, rfl⟩
      rfl
  | cons p ps ih =>
    rw [readParams, parameterList_cons_iff, List.forall_mem_cons, List.map_cons]
    by_cases hkey : String.ofList p = keyword
    · simp [hkey]
    rw [← isName_iff]
    by_cases hname : isName p = true
    · by_cases hknown : String.ofList p ∈ known
      · simp [hkey, hname, hknown]
      · simp only [hkey, hname, hknown, if_false, Bool.not_true, Bool.false_eq_true, bind_eq_ok_iff, ih]
        constructor
        · rintro ⟨_, ⟨hps, hnew, rfl⟩, h⟩
          cases h
          refine ⟨⟨trivial, hkey, fun hp => hnew p hp (.head _), hps⟩, ⟨id, fun q hq hk => ?_⟩, rfl⟩
          exact hnew q hq (.tail _ hk)
        · rintro ⟨⟨_, _, hp, hps⟩, ⟨_, hnew⟩, rfl⟩
          refine ⟨_, ⟨hps, fun q hq hk => ?_, rfl⟩, rfl⟩
          rcases List.mem_cons.mp hk with hqp | hk
          · exact hp (String.ofList_injective hqp ▸ hq)
          · exact hnew q hq hk
    · simp [hkey, hname]

theorem lineFaults_readParams (known : List String) (ps : List (List Char)) : LineFaults (readParams known ps) := by
  induction ps generalizing known with
  | nil => exact lineFaults_ok _
  | cons p ps ih =>
    rw [readParams]
    split
    · exact lineFaults_error rfl
    · split
      · exact lineFaults_error rfl
      · split
        · exact lineFaults_error rfl
        · exact (ih _).bind fun _ => lineFaults_ok _

/-! ## Shapes -/

theorem isEmpty_ofChars_iff {cs : List Char} :
    (Token.ofChars cs : List (Token α)).isEmpty = true ↔ allBlank cs = true := by
  rw [List.isEmpty_iff]
  exact Token.ofChars_eq_nil_iff

theorem readDefinition_eq_ok_iff {line : List Char} {command : Command α} :
    readDefinition line = .ok command ↔ ∃ name params body, DefinitionLine line name params body ∧ name ≠ keyword ∧
      '=' ∉ body ∧ allBlank body = false ∧ ParameterList (items params) ∧
      command = .define ⟨name, (items params).map String.ofList, Token.ofChars body⟩ := by
  rw [readDefinition]
  cases hdef : definition? line with
  | none =>
    refine ⟨fun h => (nomatch h), ?_⟩
    rintro ⟨name, params, body, hline, _⟩
    rw [definition?_eq_some_iff.mpr hline] at hdef
    cases hdef
  | some parts =>
    obtain ⟨name, params, body⟩ := parts
    have hline := definition?_eq_some_iff.mp hdef
    dsimp only
    constructor
    · intro h
      by_cases hkey : name = keyword
      · rw [if_pos hkey] at h
        cases h
      · rw [if_neg hkey] at h
        obtain ⟨ts, hts, h⟩ := bind_eq_ok_iff.mp h
        obtain ⟨hequals, rfl⟩ := readExpression_eq_ok_iff.mp hts
        split at h
        · cases h
        · next hempty =>
          obtain ⟨names, hnames, h⟩ := bind_eq_ok_iff.mp h
          obtain ⟨hparams, _, rfl⟩ := readParams_eq_ok_iff.mp hnames
          rw [isEmpty_ofChars_iff] at hempty
          cases h
          exact ⟨name, params, body, hline, hkey, hequals, by simpa using hempty, hparams, rfl⟩
    · rintro ⟨name', params', body', hline', hkey, hequals, hblank, hparams, rfl⟩
      -- the parts found by the scanner are the only ones
      obtain ⟨rfl, rfl, rfl⟩ := hline.unique hline'
      have hempty : ¬(Token.ofChars body : List (Token α)).isEmpty = true := by
        rw [isEmpty_ofChars_iff, hblank]
        decide
      have hnames : readParams [] (items params) = .ok ((items params).map String.ofList) :=
        readParams_eq_ok_iff.mpr ⟨hparams, fun _ _ h => (nomatch h), rfl⟩
      rw [if_neg hkey]
      refine bind_eq_ok_iff.mpr ⟨_, readExpression_eq_ok_iff.mpr ⟨hequals, rfl⟩, ?_⟩
      rw [if_neg hempty]
      exact bind_eq_ok_iff.mpr ⟨_, hnames, rfl⟩

theorem lineFaults_readDefinition (line : List Char) : LineFaults (readDefinition line : Except Fault (Command α)) := by
  rw [readDefinition]
  split
  · exact lineFaults_error rfl
  · split
    · exact lineFaults_error rfl
    · refine (lineFaults_readExpression _).bind fun ts => ?_
      split
      · exact lineFaults_error rfl
      · exact (lineFaults_readParams _ _).bind fun _ => lineFaults_ok _

theorem readAssignment_eq_ok_iff {name : String} {cs : List Char} {command : Command α} :
    readAssignment name cs = .ok command ↔
      '=' ∉ cs ∧ allBlank cs = false ∧ command = .assign name (Token.ofChars cs) := by
  simp only [readAssignment, bind_eq_ok_iff, readExpression_eq_ok_iff]
  constructor
  · rintro ⟨_, ⟨hequals, rfl⟩, h⟩
    split at h
    · cases h
    · next hempty =>
      rw [isEmpty_ofChars_iff] at hempty
      cases h
      exact ⟨hequals, by simpa using hempty, rfl⟩
  · rintro ⟨hequals, hblank, rfl⟩
    refine ⟨_, ⟨hequals, rfl⟩, if_neg ?_⟩
    rw [isEmpty_ofChars_iff, hblank]
    decide

theorem lineFaults_readAssignment (name : String) (cs : List Char) :
    LineFaults (readAssignment name cs : Except Fault (Command α)) := by
  refine (lineFaults_readExpression cs).bind fun ts => ?_
  split
  · exact lineFaults_error rfl
  · exact lineFaults_ok _

omit [Scalar α] in
theorem readCall_eq_ok_iff {name : String} {list : List Char} {command : Command α} :
    readCall name list = .ok command ↔ [] ∉ items list ∧ command = .call name ((items list).map String.ofList) := by
  rw [readCall]
  by_cases h : [] ∈ items list
  · simp [h]
  · simp [h, eq_comm]

omit [Scalar α] in
theorem lineFaults_readCall (name : String) (list : List Char) :
    LineFaults (readCall name list : Except Fault (Command α)) := by
  rw [readCall]
  split
  · exact lineFaults_error rfl
  · exact lineFaults_ok _

/-! ## Lines -/

/-- The formula of a definition line whose parts are in order. -/
def Defines (line : List Char) (formula : Formula α) : Prop :=
  ∃ name params body ps, DefinitionLine line name params body ∧ ItemList params ps ∧ name ≠ keyword ∧ '=' ∉ body ∧
    allBlank body = false ∧ ParameterList ps ∧ formula = ⟨name, ps.map String.ofList, Token.ofChars body⟩

def HasAssignment (line : List Char) : Prop := ∃ name expression, AssignmentLine line name expression

def HasCall (line : List Char) : Prop := ∃ name list, CallLine line name list

/-- What is read from a line. The first shape that the line has decides. -/
structure Reads (line : List Char) (x : Except Fault (Option (Command α))) : Prop where
  blank : x = .ok none ↔ allBlank line = true
  definition : KeywordLine line → ∀ formula : Formula α, x = .ok (some (.define formula)) ↔ Defines line formula
  no_definition : KeywordLine line → (∀ formula : Formula α, ¬Defines line formula) → Refused x
  assignment : ¬KeywordLine line → ∀ name expression, AssignmentLine line name expression →
    if '=' ∈ expression ∨ allBlank expression = true then Refused x
    else x = .ok (some (.assign name (Token.ofChars expression)))
  call : ¬KeywordLine line → ¬HasAssignment line → ∀ name list arguments, CallLine line name list →
    ItemList list arguments →
      if [] ∈ arguments then Refused x else x = .ok (some (.call name (arguments.map String.ofList)))
  expression : allBlank line = false → ¬KeywordLine line → ¬HasAssignment line → ¬HasCall line →
    if '=' ∈ line then Refused x else x = .ok (some (.display (Token.ofChars line)))

theorem readDefinition_eq_define_iff {line : List Char} {formula : Formula α} :
    readDefinition line = .ok (.define formula) ↔ Defines line formula := by
  simp only [readDefinition_eq_ok_iff, Command.define.injEq, Defines, ← items_eq_iff]
  constructor
  · rintro ⟨name, params, body, hline, hparts⟩
    exact ⟨name, params, body, _, hline, rfl, hparts⟩
  · rintro ⟨name, params, body, _, hline, rfl, hparts⟩
    exact ⟨name, params, body, hline, hparts⟩

theorem map_eq_ok_some_iff {β : Type} {x : Except Fault β} {b : β} : some <$> x = .ok (some b) ↔ x = .ok b := by
  cases x with
  | ok c => exact ⟨fun h => by cases h; rfl, fun h => by cases h; rfl⟩
  | error fault => exact ⟨fun h => (nomatch h), fun h => (nomatch h)⟩

theorem map_ne_ok_none {β : Type} {x : Except Fault β} : some <$> x ≠ .ok none := by
  cases x with
  | ok b => exact fun h => (nomatch h)
  | error fault => exact fun h => (nomatch h)

theorem LineFaults.refused_map {β γ : Type} {x : Except Fault β} (hx : LineFaults x) (f : β → γ)
    (h : ∀ b, x ≠ .ok b) : Refused (f <$> x) := by
  obtain ⟨fault, rfl, hkind⟩ := hx.refused h
  exact ⟨fault, rfl, hkind⟩

theorem isDefinition_eq_false_iff {line : List Char} : isDefinition line = false ↔ ¬KeywordLine line := by
  rw [← isDefinition_iff, Bool.not_eq_true]

theorem readChars_of_keywordLine {line : List Char} (h : KeywordLine line) :
    (readChars line : Except Fault (Command α)) = readDefinition line := by
  rw [readChars, if_pos (isDefinition_iff.mpr h)]

theorem readChars_of_assignmentLine {line expression : List Char} {name : String} (hkeyword : ¬KeywordLine line)
    (h : AssignmentLine line name expression) :
    (readChars line : Except Fault (Command α)) = readAssignment name expression := by
  rw [readChars, isDefinition_eq_false_iff.mpr hkeyword, assignment?_eq_some_iff.mpr h]
  rfl

theorem assignment?_eq_none {line : List Char} (h : ¬HasAssignment line) : assignment? line = none := by
  cases hparts : assignment? line with
  | none => rfl
  | some parts => exact absurd ⟨parts.1, parts.2, assignment?_eq_some_iff.mp hparts⟩ h

theorem call?_eq_none {line : List Char} (h : ¬HasCall line) : call? line = none := by
  cases hparts : call? line with
  | none => rfl
  | some parts => exact absurd ⟨parts.1, parts.2, call?_eq_some_iff.mp hparts⟩ h

theorem readChars_of_callLine {line list : List Char} {name : String} (hkeyword : ¬KeywordLine line)
    (hassignment : ¬HasAssignment line) (h : CallLine line name list) :
    (readChars line : Except Fault (Command α)) = readCall name list := by
  rw [readChars, isDefinition_eq_false_iff.mpr hkeyword, assignment?_eq_none hassignment, call?_eq_some_iff.mpr h]
  rfl

theorem readChars_of_expression {line : List Char} (hkeyword : ¬KeywordLine line)
    (hassignment : ¬HasAssignment line) (hcall : ¬HasCall line) :
    (readChars line : Except Fault (Command α)) = .display <$> readExpression line := by
  rw [readChars, isDefinition_eq_false_iff.mpr hkeyword, assignment?_eq_none hassignment, call?_eq_none hcall]
  rfl

theorem reads_readChars {line : List Char} (hline : allBlank line = false) :
    Reads line (some <$> (readChars line : Except Fault (Command α))) where
  blank := ⟨fun h => absurd h map_ne_ok_none, fun h => absurd (hline.symm.trans h) (by decide)⟩
  definition hkeyword formula := by
    rw [readChars_of_keywordLine hkeyword, map_eq_ok_some_iff]
    exact readDefinition_eq_define_iff
  no_definition hkeyword hnone := by
    rw [readChars_of_keywordLine hkeyword]
    refine (lineFaults_readDefinition line).refused_map some fun command hcommand => ?_
    obtain ⟨name, params, body, _, _, _, _, _, rfl⟩ := readDefinition_eq_ok_iff.mp hcommand
    exact hnone _ (readDefinition_eq_define_iff.mp hcommand)
  assignment hkeyword name expression h := by
    rw [readChars_of_assignmentLine hkeyword h]
    split
    · next hbad =>
      refine (lineFaults_readAssignment name expression).refused_map some fun command hcommand => ?_
      obtain ⟨hequals, hblank, _⟩ := readAssignment_eq_ok_iff.mp hcommand
      rcases hbad with hbad | hbad
      · exact hequals hbad
      · exact absurd (hblank.symm.trans hbad) (by decide)
    · next hgood =>
      rw [not_or, Bool.not_eq_true] at hgood
      rw [map_eq_ok_some_iff, readAssignment_eq_ok_iff]
      exact ⟨hgood.1, hgood.2, rfl⟩
  call hkeyword hassignment name list _ h hlist := by
    obtain rfl := items_eq_iff.mpr hlist
    rw [readChars_of_callLine hkeyword hassignment h]
    split
    · next hbad =>
      refine (lineFaults_readCall name list).refused_map some fun command hcommand => ?_
      exact (readCall_eq_ok_iff.mp hcommand).1 hbad
    · next hgood =>
      rw [map_eq_ok_some_iff, readCall_eq_ok_iff]
      exact ⟨hgood, rfl⟩
  expression _ hkeyword hassignment hcall := by
    rw [readChars_of_expression hkeyword hassignment hcall, readExpression]
    split
    · exact ⟨_, rfl, rfl⟩
    · rfl

/-! ## Blank lines -/

theorem not_allBlank_of_mem {line : List Char} {c : Char} (hc : c ∈ line) (h : isBlank c = false) :
    allBlank line = false := by
  rw [Bool.eq_false_iff, Ne, allBlank_iff]
  intro hall
  exact absurd (h.symm.trans (hall c hc)) (by decide)

theorem KeywordLine.not_allBlank {line : List Char} (h : KeywordLine line) : allBlank line = false := by
  obtain ⟨_, _, _, rfl, _⟩ := h
  exact not_allBlank_of_mem (c := 'd') (by simp) (by decide)

theorem AssignmentLine.not_allBlank {line expression : List Char} {name : String}
    (h : AssignmentLine line name expression) : allBlank line = false := by
  obtain ⟨_, _, _, _, rfl⟩ := h.spelled
  exact not_allBlank_of_mem (c := '=') (by simp) (by decide)

theorem CallLine.not_allBlank {line list : List Char} {name : String} (h : CallLine line name list) :
    allBlank line = false := by
  obtain ⟨_, _, _, _, _, _, rfl⟩ := h.spelled
  exact not_allBlank_of_mem (c := '(') (by simp) (by decide)

theorem reads_blank {line : List Char} (hline : allBlank line = true) :
    Reads line (.ok none : Except Fault (Option (Command α))) where
  blank := ⟨fun _ => hline, fun _ => rfl⟩
  definition h := absurd (hline.symm.trans h.not_allBlank) (by decide)
  no_definition h := absurd (hline.symm.trans h.not_allBlank) (by decide)
  assignment _ _ _ h := absurd (hline.symm.trans h.not_allBlank) (by decide)
  call _ _ _ _ _ h := absurd (hline.symm.trans h.not_allBlank) (by decide)
  expression h := absurd (hline.symm.trans h) (by decide)

/-! ## Reading -/

/-- What is read from a line, and that its shapes have their parts in one way only. -/
theorem reads_line (line : String) :
    Reads line.toList (read line : Except Fault (Option (Command α))) ∧
      (∀ name name' params params' body body', DefinitionLine line.toList name params body →
        DefinitionLine line.toList name' params' body' → name = name' ∧ params = params' ∧ body = body') ∧
      (∀ name name' expression expression', AssignmentLine line.toList name expression →
        AssignmentLine line.toList name' expression' → name = name' ∧ expression = expression') ∧
      ∀ name name' list list', CallLine line.toList name list → CallLine line.toList name' list' →
        name = name' ∧ list = list' := by
  refine ⟨?_, fun _ _ _ _ _ _ h h' => h.unique h', fun _ _ _ _ h h' => h.unique h', fun _ _ _ _ h h' => h.unique h'⟩
  rw [read]
  cases hline : allBlank line.toList with
  | true => exact reads_blank hline
  | false => exact reads_readChars hline

end Command

end DeskCalc
