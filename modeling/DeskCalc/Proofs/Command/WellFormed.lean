import DeskCalc.Proofs.Command.Reading
import DeskCalc.Proofs.Token.WellFormed

/-! # The names and formulas that a line can have

* `Command.FreeName`: a name that the keyword does not take. `Command.AssignmentLine.freeName`: an assignment has one,
  because with the keyword in its place the line is a definition.
* `Formula.EveryNumber`: its numbers are of a kind.
* `Formula.WellFormed`: names in order, and a body of well-formed tokens. `Command.Defines.wellFormed`: a definition has
  such a formula.
* `Command.readChars_cases`: what a line can be read as. `Command.freeName_of_read`, `Command.defines_of_read`,
  `Command.display_of_read`: an assignment, a definition and an expression.
-/

namespace DeskCalc
open DeskCalc.Number DeskCalc.Text
set_option autoImplicit false

/-! ## Characters -/

namespace Text

/-- The two classes have no range in common. -/
theorem isWordChar_of_isBlank {c : Char} (h : isBlank c = true) : isWordChar c = false := by
  have hapart : ∀ b ∈ blanks, ∀ w ∈ wordRanges, b.2 < w.1 ∨ w.2 < b.1 := by decide +kernel
  obtain ⟨b, hb, hlow, hhigh⟩ := Ranges.has_iff.mp h
  rw [isWordChar, Bool.eq_false_iff, Ne, Ranges.has_iff]
  intro ⟨w, hw, hlow', hhigh'⟩
  have := hapart b hb w hw
  omega

end Text

namespace Command

variable {α : Type} [Scalar α]

/-! ## Names -/

def FreeName (name : String) : Prop := Identifier name.toList ∧ name ≠ keyword

theorem AssignmentLine.freeName {line expression : List Char} {name : String}
    (h : AssignmentLine line name expression) (hkeyword : ¬KeywordLine line) : FreeName name := by
  refine ⟨h.identifier, ?_⟩
  intro hname
  subst hname
  obtain ⟨front, inner, hfront, hinner, hline⟩ := h.spelled
  refine hkeyword ⟨front, inner ++ '=' :: expression, hfront, hline, ?_⟩
  apply stops_append
  · intro c hc
    exact isWordChar_of_isBlank (allBlank_iff.mp hinner c hc)
  · exact stops_cons (by decide +kernel) expression

/-! ## Lines -/

theorem read_eq_some_iff {line : String} {command : Command α} :
    read line = .ok (some command) ↔ allBlank line.toList = false ∧ readChars line.toList = .ok command := by
  rw [read]
  cases hline : allBlank line.toList with
  | true => simp
  | false => simpa using map_eq_ok_some_iff

/-- Everything that a line can be read as. -/
theorem readChars_cases {line : List Char} {command : Command α} (h : readChars line = .ok command) :
    (∃ f, Defines line f ∧ command = .define f) ∨
      (∃ name expression, ¬KeywordLine line ∧ AssignmentLine line name expression ∧ '=' ∉ expression ∧
        command = .assign name (Token.ofChars expression)) ∨
      (∃ name list, CallLine line name list ∧ [] ∉ items list ∧
        command = .call name ((items list).map String.ofList)) ∨
      ('=' ∉ line ∧ command = .display (Token.ofChars line)) := by
  by_cases hkeyword : KeywordLine line
  · rw [readChars_of_keywordLine hkeyword] at h
    obtain ⟨_, _, _, _, _, _, _, _, rfl⟩ := readDefinition_eq_ok_iff.mp h
    exact .inl ⟨_, readDefinition_eq_define_iff.mp h, rfl⟩
  · by_cases hassignment : HasAssignment line
    · obtain ⟨name, expression, hline⟩ := hassignment
      rw [readChars_of_assignmentLine hkeyword hline] at h
      obtain ⟨hequals, _, rfl⟩ := readAssignment_eq_ok_iff.mp h
      exact .inr (.inl ⟨name, expression, hkeyword, hline, hequals, rfl⟩)
    · by_cases hcall : HasCall line
      · obtain ⟨name, list, hline⟩ := hcall
        rw [readChars_of_callLine hkeyword hassignment hline] at h
        obtain ⟨hitems, rfl⟩ := readCall_eq_ok_iff.mp h
        exact .inr (.inr (.inl ⟨name, list, hline, hitems, rfl⟩))
      · rw [readChars_of_expression hkeyword hassignment hcall] at h
        cases htokens : (readExpression line : Except Fault (List (Token α))) with
        | error fault =>
          rw [htokens] at h
          cases h
        | ok tokens =>
          obtain ⟨hequals, rfl⟩ := readExpression_eq_ok_iff.mp htokens
          rw [htokens] at h
          cases h
          exact .inr (.inr (.inr ⟨hequals, rfl⟩))

theorem freeName_of_read {line name : String} {tokens : List (Token α)}
    (h : read line = .ok (some (.assign name tokens))) : FreeName name := by
  obtain ⟨_, hchars⟩ := read_eq_some_iff.mp h
  obtain ⟨_, _, hc⟩ | ⟨_, _, hkeyword, hline, _, hc⟩ | ⟨_, _, _, _, hc⟩ | ⟨_, hc⟩ := readChars_cases hchars <;> cases hc
  exact hline.freeName hkeyword

theorem defines_of_read {line : String} {f : Formula α} (h : read line = .ok (some (.define f))) :
    Defines line.toList f := by
  obtain ⟨_, hchars⟩ := read_eq_some_iff.mp h
  obtain ⟨_, hdefines, hc⟩ | ⟨_, _, _, _, _, hc⟩ | ⟨_, _, _, _, hc⟩ | ⟨_, hc⟩ := readChars_cases hchars <;> cases hc
  exact hdefines

theorem freeName_of_define {line : String} {f : Formula α} (h : read line = .ok (some (.define f))) :
    FreeName f.name := by
  obtain ⟨name, params, body, ps, hline, _, hname, _, _, _, rfl⟩ := defines_of_read h
  exact ⟨hline.identifier, hname⟩

/-- A line that is read as an expression has no equals sign, and its tokens are those of the text. -/
theorem display_of_read {line : String} {tokens : List (Token α)}
    (h : read line = .ok (some (.display tokens))) : '=' ∉ line.toList ∧ tokens = Token.ofText line := by
  obtain ⟨_, hchars⟩ := read_eq_some_iff.mp h
  obtain ⟨_, _, hc⟩ | ⟨_, _, _, _, _, hc⟩ | ⟨_, _, _, _, hc⟩ | ⟨hequals, hc⟩ := readChars_cases hchars
  · cases hc
  · cases hc
  · cases hc
  · rw [Command.display.injEq, ← Token.ofText] at hc
    exact ⟨hequals, hc⟩

end Command

/-! ## Formulas -/

variable {α : Type}

structure Formula.WellFormed (kind : α → Prop) (f : Formula α) : Prop where
  name : Command.FreeName f.name
  params : ∀ p ∈ f.params, Command.FreeName p
  distinct : f.params.Nodup
  nonempty : f.body ≠ []
  body : ∀ t ∈ f.body, t.WellFormed kind

/-- Every number in the body is of a kind. -/
def Formula.EveryNumber (kind : α → Prop) (f : Formula α) : Prop := ∀ x, Token.number x ∈ f.body → kind x

theorem Formula.all_iff_everyNumber {kind : α → Prop} [DecidablePred kind] {f : Formula α} :
    f.body.all (fun | .number x => kind x | _ => true) = true ↔ f.EveryNumber kind := by
  rw [List.all_eq_true]
  constructor
  · exact fun h x hx => of_decide_eq_true (h _ hx)
  · intro h t ht
    cases t with
    | number x => exact decide_eq_true (h x ht)
    | name | operator | opening | closing => rfl

instance {kind : α → Prop} [DecidablePred kind] : DecidablePred (Formula.EveryNumber kind) := fun _ =>
  decidable_of_iff _ Formula.all_iff_everyNumber

theorem Command.Defines.wellFormed [Scalar α] {kind : α → Prop} (hread : ReadsLiterals α kind) {line : List Char}
    {f : Formula α} (h : Command.Defines line f) : f.WellFormed kind := by
  obtain ⟨name, params, body, ps, hline, _, hname, hequals, hblank, ⟨hps, hnodup⟩, rfl⟩ := h
  have hparams : ∀ p ∈ ps.map String.ofList, FreeName p := by
    intro p hp
    obtain ⟨cs, hcs, rfl⟩ := List.mem_map.mp hp
    obtain ⟨hidentifier, hkeyword⟩ := hps cs hcs
    exact ⟨by rwa [String.toList_ofList], hkeyword⟩
  have hdistinct : (ps.map String.ofList).Nodup := hnodup.map fun _ _ h => String.ofList_injective h
  have hnonempty : (Token.ofChars body : List (Token α)) ≠ [] := by
    rw [Ne, Token.ofChars_eq_nil_iff, hblank]
    exact Bool.false_ne_true
  have hbody := Token.wellFormed_ofChars hread hequals
  -- otherwise the tokens are computed when they are compared
  generalize (Token.ofChars body : List (Token α)) = tokens at hnonempty hbody
  exact ⟨⟨hline.identifier, hname⟩, hparams, hdistinct, hnonempty, hbody⟩

end DeskCalc
