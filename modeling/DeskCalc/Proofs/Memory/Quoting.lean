import DeskCalc.Proofs.Command.Equals
import DeskCalc.Proofs.Memory.Faults
import DeskCalc.Proofs.Memory.WellFormed

/-! # What faults quote

The message of a fault is a fixed text around a piece of what has been entered, on this line or on an earlier one. A
name has no blanks, and any other piece is cut out of the line itself: no message has a line end that the line has not.

* `Text.OneLine`: a text without line ends.
* `Fault.quoted`, `Fault.oneLine_message`: the piece that a fault quotes. The rest of its message is on one line.
* `Fault.BlanksOf`: a fault that quotes no other blanks than those of a text.
* `Command.Refusal.blanksOf`, `Memory.EntryFault.blanksOf`: the faults of a line that is read, and of one that is
  entered.
* `Memory.oneLine_message`: what is answered to one line is one line.
-/

namespace DeskCalc
open DeskCalc.Number DeskCalc.Text
set_option autoImplicit false

/-! ## Line ends -/

namespace Text

def OneLine (s : String) : Prop := '\n' ∉ s.toList

instance : DecidablePred OneLine := fun s => inferInstanceAs (Decidable ('\n' ∉ s.toList))

theorem OneLine.append {s t : String} (hs : OneLine s) (ht : OneLine t) : OneLine (s ++ t) := by
  rw [OneLine, String.toList_append, List.mem_append, not_or]
  exact ⟨hs, ht⟩

theorem oneLine_natural (n : Nat) : OneLine (toString n) := by
  intro h
  have hmem : '\n' ∈ Nat.toDigits 10 n := by simpa [Nat.repr] using h
  cases Nat.isDigit_of_mem_toDigits (by decide) (by decide) hmem

end Text

/-! ## Messages -/

namespace Fault

/-- The piece of a line, or the name, that a fault tells. -/
def quoted : Fault → String
  | undefinedName text | undefinedFunction text | tooManyArguments text _ _ | tooFewArguments text _ _
  | unknownArgument text | unknownOperator text | strayEquals text | malformedDefinition text | reservedName text
  | emptyBody text | emptyAssignment text | emptyArgument text | malformedParameter text
  | repeatedParameter text => text
  | divisionByZero | missingOperand _ | unbalanced | emptyExpression | looseOperands _ => ""

theorem oneLine_message {fault : Fault} (h : OneLine fault.quoted) : OneLine fault.message := by
  cases fault with
  | undefinedName | reservedName => exact .append h (by decide)
  | undefinedFunction | unknownOperator | strayEquals | malformedDefinition | emptyAssignment | emptyArgument
  | repeatedParameter => exact .append (by decide) h
  | unknownArgument | emptyBody | malformedParameter => exact .append (.append (by decide) h) (by decide)
  | tooManyArguments | tooFewArguments =>
    refine .append (.append (.append (.append (.append ?_ h) ?_) (oneLine_natural _)) ?_) (oneLine_natural _) <;> decide
  | looseOperands => exact .append (oneLine_natural _) (by decide)
  | divisionByZero | unbalanced | emptyExpression => exact of_decide_eq_true rfl
  | missingOperand op => cases op <;> exact of_decide_eq_true rfl

/-- Every blank that it quotes is one of the text. -/
def BlanksOf (cs : List Char) (fault : Fault) : Prop := ∀ c ∈ fault.quoted.toList, isBlank c = true → c ∈ cs

variable {cs : List Char} {fault : Fault}

theorem blanksOf_of_no_blank (h : ∀ c ∈ fault.quoted.toList, isBlank c = false) : fault.BlanksOf cs := by
  intro c hc hblank
  rw [h c hc] at hblank
  cases hblank

theorem blanksOf_of_identifier (h : Command.Identifier fault.quoted.toList) : fault.BlanksOf cs :=
  blanksOf_of_no_blank fun c hc => Command.isBlank_of_continuesName (Command.continuesName_of_identifier h c hc)

theorem blanksOf_of_piece {piece : List Char} (hquoted : fault.quoted = String.ofList piece) (h : ∀ c ∈ piece, c ∈ cs) :
    fault.BlanksOf cs := by
  intro c hc _
  rw [hquoted, String.toList_ofList] at hc
  exact h c hc

theorem BlanksOf.mono (h : fault.BlanksOf cs) {more : List Char} (hmore : ∀ c ∈ cs, c ∈ more) : fault.BlanksOf more :=
  fun c hc hblank => hmore c (h c hc hblank)

end Fault

/-! ## Refused lines -/

namespace Command

theorem ParameterFault.blanksOf {p : List Char} {fault : Fault} (h : ParameterFault p fault) : fault.BlanksOf p := by
  cases h with
  | reserved => exact Fault.blanksOf_of_identifier (by decide)
  | malformed | repeated => exact Fault.blanksOf_of_piece rfl fun _ hc => hc

theorem DefinitionFault.blanksOf {line params body : List Char} {name : String} {fault : Fault}
    (h : DefinitionFault name params body fault) (hline : DefinitionLine line name params body) :
    fault.BlanksOf line := by
  have hidentifier := hline.identifier
  obtain ⟨front, gap, inner, behind, _, _, _, _, _, rfl⟩ := hline.spelled
  cases h with
  | reserved => exact Fault.blanksOf_of_identifier (by decide)
  | equals =>
    refine Fault.blanksOf_of_piece rfl fun c hc => ?_
    have hbody := mem_of_mem_trim hc
    simp [hbody]
  | empty => exact Fault.blanksOf_of_identifier hidentifier
  | parameter hp h =>
    refine h.blanksOf.mono fun c hc => ?_
    have hparams := mem_of_mem_items hp hc
    simp [hparams]

theorem AssignmentFault.blanksOf {line expression : List Char} {name : String} {fault : Fault}
    (h : AssignmentFault name expression fault) (hline : AssignmentLine line name expression) :
    fault.BlanksOf line := by
  cases h with
  | equals =>
    obtain ⟨front, inner, _, _, rfl⟩ := hline.spelled
    refine Fault.blanksOf_of_piece rfl fun c hc => ?_
    have hexpression := mem_of_mem_trim hc
    simp [hexpression]
  | empty => exact Fault.blanksOf_of_identifier hline.identifier

theorem Refusal.blanksOf {line : List Char} {fault : Fault} (h : Refusal line fault) : fault.BlanksOf line := by
  cases h with
  | header | expression => exact Fault.blanksOf_of_piece rfl fun _ => mem_of_mem_trim
  | definition hline h => exact h.blanksOf hline
  | assignment _ hline h => exact h.blanksOf hline
  | call hline => exact Fault.blanksOf_of_identifier hline.identifier

end Command

/-! ## Entered lines -/

variable {α : Type} {kind : α → Prop}

theorem Fault.OfRow.blanksOf {ts : List (Token α)} {fault : Fault} (h : fault.OfRow ts)
    (hts : ∀ t ∈ ts, t.WellFormed kind) (cs : List Char) : fault.BlanksOf cs := by
  cases fault with
  | undefinedName name => exact Fault.blanksOf_of_no_blank fun c hc => ((hts _ h).2.1 c hc).1
  | divisionByZero | missingOperand | unbalanced | emptyExpression | looseOperands =>
    exact Fault.blanksOf_of_no_blank fun _ hc => nomatch hc
  | _ => cases h

namespace Memory

variable [Scalar α]

theorem CallFault.blanksOf {m : Memory α} (hm : m.WellFormed kind) {line list : List Char} {name : String}
    (hline : Command.CallLine line name list) {fault : Fault}
    (h : CallFault m name ((items list).map String.ofList) fault) : fault.BlanksOf line := by
  cases h with
  | unknown | many | few => exact Fault.blanksOf_of_identifier hline.identifier
  | argument ha =>
    obtain ⟨item, hitem, rfl⟩ := List.mem_map.mp ha
    obtain ⟨front, inner, behind, _, _, _, rfl⟩ := hline.spelled
    refine Fault.blanksOf_of_piece rfl fun c hc => ?_
    rw [String.toList_ofList] at hc
    have hlist := mem_of_mem_items hitem (mem_of_mem_trim hc)
    simp [hlist]
  | body hf h => exact h.blanksOf (hm.functions _ _ hf).2.2.body line

/-- The names of a function that has been defined on another line have no blanks. -/
theorem EntryFault.blanksOf (hread : ReadsLiterals α kind) {m : Memory α} (hm : m.WellFormed kind) {line : String}
    {fault : Fault} (h : EntryFault m line fault) : fault.BlanksOf line.toList := by
  cases h with
  | refused h => exact (Command.refusal_of_read h).blanksOf
  | display hline h =>
    obtain ⟨hequals, htokens⟩ := Command.display_of_read hline
    rw [htokens, Token.ofText] at h
    exact h.blanksOf (Token.wellFormed_ofChars hread hequals) _
  | assign hline h =>
    obtain ⟨_, _, hc⟩ | ⟨_, _, _, _, hequals, hc⟩ | ⟨_, _, _, _, hc⟩ | ⟨_, hc⟩ :=
      Command.readChars_cases (Command.read_eq_some_iff.mp hline).2 <;> cases hc
    exact h.blanksOf (Token.wellFormed_ofChars hread hequals) _
  | call hline h =>
    obtain ⟨list, _, hcall, _, rfl⟩ := Command.read_eq_call_iff.mp hline
    exact h.blanksOf hm hcall

theorem oneLine_message (hread : ReadsLiterals α kind) {m : Memory α} (hm : m.WellFormed kind) {line : String}
    (hline : OneLine line) {fault : Fault} (h : (m.enter line).outcome = .error fault) : OneLine fault.message :=
  Fault.oneLine_message fun hend => hline ((entryFault_of_enter h).blanksOf hread hm '\n' hend rfl)

end Memory

end DeskCalc
