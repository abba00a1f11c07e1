import DeskCalc.Proofs.Command.Spelling
import DeskCalc.Proofs.Memory.Entering

/-! # Routes to a value

The value of a text is the same, or fails with the same fault, by whatever route it is asked for: as an expression, as
the right side of an assignment, as the body of a function without parameters, as a line of its own, or, where there
are no variables, as a text by itself. Other lines do not change how the text is read, not even where it looks like a
call or a definition.

* `Formula.constant`: a text as a function without parameters.
* `Memory.enter_assignment`, `Memory.enter_definition`, `Memory.enter_constant`, `Memory.enter_display`: one route each.
* `Memory.routes_agree`: all of them.
-/

namespace DeskCalc
open DeskCalc.Number DeskCalc.Text
set_option autoImplicit false

variable {α : Type} [Scalar α]

/-- The function of this name that has no parameters and stands for the text. -/
def Formula.constant (name text : String) : Formula α := ⟨name, [], Token.ofText text⟩

theorem Command.read_constant {name text : String} (hname : FreeName name)
    (htext : ∀ c ∈ text.toList, c ≠ '\n' ∧ c ≠ '=') (hblank : allBlank text.toList = false) :
    read ("def " ++ name ++ "() = " ++ text) = .ok (some (.define (.constant name text : Formula α))) := by
  have hnone : ParameterList [] := ⟨fun _ h => (nomatch h), .nil⟩
  have hspelled : "def " ++ name ++ "() = " ++ text =
      "def " ++ name ++ "(" ++ ", ".intercalate ([].map String.ofList) ++ ") = " ++ text := by
    rw [← String.toList_inj]
    simp
  rw [hspelled]
  exact read_definition hname hnone htext hblank

namespace Memory

theorem evaluate_of_not_mem (m : Memory α) {text : String} (h : '=' ∉ text.toList) :
    m.evaluate text = m.evaluateTokens (Token.ofText text) := by
  rw [evaluate, Command.readExpression, if_neg h, ← Token.ofText]
  -- otherwise the tokens are computed when they are compared
  generalize (Token.ofText text : List (Token α)) = tokens
  rfl

/-- An assignment keeps the value of the text and answers nothing. -/
theorem enter_assignment (m : Memory α) {name text : String} (hname : Command.FreeName name)
    (htext : '\n' ∉ text.toList) (hblank : allBlank text.toList = false) :
    (m.enter (name ++ " = " ++ text)).outcome = (m.evaluate text).outcome.map fun x => (none, m.assign name x) := by
  have hread := Command.read_assignment (α := α) hname htext hblank
  rw [evaluate]
  cases htokens : (Command.readExpression text.toList : Except Fault (List (Token α))) with
  | error e =>
    rw [htokens] at hread
    rw [enter_of_unreadable m hread]
    rfl
  | ok tokens =>
    rw [htokens] at hread
    rw [enter_of_command m hread, run, Traced.outcome_bind]
    rfl

theorem enter_definition (m : Memory α) {name text : String} (hname : Command.FreeName name)
    (htext : ∀ c ∈ text.toList, c ≠ '\n' ∧ c ≠ '=') (hblank : allBlank text.toList = false) :
    (m.enter ("def " ++ name ++ "() = " ++ text)).outcome = .ok (none, m.define (.constant name text)) := by
  rw [enter_of_command m (Command.read_constant hname htext hblank)]
  rfl

theorem enter_call (m : Memory α) {name : String} {arguments : List String} (hname : Command.FreeName name)
    (harguments : ∀ a ∈ arguments, Command.Argument a) :
    (m.enter (name ++ "(" ++ ", ".intercalate arguments ++ ")")).outcome =
      (m.call name arguments).outcome.map fun x => (some x, m) := by
  rw [enter_of_command m (Command.read_call hname harguments), run, Traced.outcome_bind]
  rfl

/-- Without parameters, the body sees the variables and nothing else. -/
theorem call_of_no_params {m : Memory α} {name : String} {f : Formula α} (h : m.functions.get? name = some f)
    (hf : f.params = []) : (m.call name []).outcome = (m.evaluateTokens f.body).outcome := by
  obtain ⟨fname, params, body⟩ := f
  dsimp only at hf
  subst hf
  rw [call, h]
  rfl

theorem enter_constant {m : Memory α} {name text : String} (hname : Command.FreeName name)
    (htext : '=' ∉ text.toList) (h : m.functions.get? name = some (.constant name text)) :
    (m.enter (name ++ "()")).outcome = (m.evaluate text).outcome.map fun x => (some x, m) := by
  have hspelled : name ++ "()" = name ++ "(" ++ ", ".intercalate [] ++ ")" := by
    rw [← String.toList_inj]
    simp
  have hnone : ∀ a ∈ ([] : List String), Command.Argument a := fun _ h => nomatch h
  rw [hspelled, enter_call m hname hnone, call_of_no_params h rfl, Formula.constant, evaluate_of_not_mem m htext]

theorem enter_display (m : Memory α) {text : String} {tokens : List (Token α)}
    (h : Command.read text = .ok (some (.display tokens))) :
    (m.enter text).outcome = (m.evaluate text).outcome.map fun x => (some x, m) := by
  obtain ⟨hequals, htokens⟩ := Command.display_of_read h
  rw [enter_of_command m h, evaluate_of_not_mem m hequals, ← htokens, run, Traced.outcome_bind, Traced.outcome_bind]
  rfl

/-- The text of an empty memory has the value of the text by itself. -/
theorem evaluateText_eq {text : String} (h : '=' ∉ text.toList) :
    (evaluateText text : Traced α α) = (∅ : Memory α).evaluate text := by
  rw [evaluate_of_not_mem _ h]
  rfl

/-- By every route a text has the value, or the fault, that it has as an expression. -/
theorem routes_agree (m : Memory α) (name text : String) (hname : Command.FreeName name) (hline : '\n' ∉ text.toList)
    (hblank : allBlank text.toList = false) :
    (∀ x, (m.evaluate text).outcome = .ok x →
      (m.enter (name ++ " = " ++ text)).outcome = .ok (none, m.assign name x)) ∧
    (∀ e, (m.evaluate text).outcome = .error e → (m.enter (name ++ " = " ++ text)).outcome = .error e ∧
      m.after (m.enter (name ++ " = " ++ text)) = m) ∧
    ('=' ∉ text.toList →
      (m.enter ("def " ++ name ++ "() = " ++ text)).outcome = .ok (none, m.define (.constant name text)) ∧
      ∀ later : Memory α, later.functions.get? name = some (.constant name text) →
        (later.enter (name ++ "()")).outcome = (later.evaluate text).outcome.map fun x => (some x, later)) ∧
    (∀ tokens, Command.read text = .ok (some (.display tokens : Command α)) →
      (m.enter text).outcome = (m.evaluate text).outcome.map (fun x => (some x, m)) ∧
      m.after (m.enter text) = m) ∧
    ('=' ∉ text.toList → (evaluateText text : Traced α α) = (∅ : Memory α).evaluate text) := by
  have hassign := m.enter_assignment hname hline hblank
  refine ⟨?_, ?_, ?_, ?_, evaluateText_eq⟩
  · intro x hx
    rw [hassign, hx]
    rfl
  · intro e he
    rw [he] at hassign
    exact ⟨hassign, after_of_error hassign⟩
  · intro hequals
    have htext : ∀ c ∈ text.toList, c ≠ '\n' ∧ c ≠ '=' :=
      fun c hc => ⟨fun h => hline (h ▸ hc), fun h => hequals (h ▸ hc)⟩
    exact ⟨m.enter_definition hname htext hblank, fun later h => enter_constant hname hequals h⟩
  · intro tokens h
    exact ⟨m.enter_display h, Traceless.after_eq (.display tokens h)⟩

/-- Here `y` is 4. -/
def fourMemory : Memory Float := (∅ : Memory Float).assign "y" 4.0

/-- Later the text is the body of `f`, and `y` is 5. -/
def fiveMemory : Memory Float := (fourMemory.define (.constant "f" "y(3)*")).assign "y" 5.0

/-- The text has its operator behind both operands, and looks like a call up to there. -/
theorem routes_agree_postfix :
    (fourMemory.evaluate "y(3)*").outcome = .ok 12.0 ∧
      (fourMemory.enter ("f" ++ " = " ++ "y(3)*")).outcome = .ok (none, fourMemory.assign "f" 12.0) ∧
      (fourMemory.enter ("def " ++ "f" ++ "() = " ++ "y(3)*")).outcome =
        .ok (none, fourMemory.define (.constant "f" "y(3)*")) ∧
      (fiveMemory.enter ("f" ++ "()")).outcome =
        (fiveMemory.evaluate "y(3)*").outcome.map (fun x => (some x, fiveMemory)) := by
  have hvalue : (fourMemory.evaluate "y(3)*").outcome = .ok 12.0 := by decide +kernel
  obtain ⟨hassign, _, hconstant, _, _⟩ := routes_agree fourMemory "f" "y(3)*" (by decide) (by decide) (by decide)
  obtain ⟨hdefine, hcall⟩ := hconstant (by decide)
  exact ⟨hvalue, hassign 12.0 hvalue, hdefine, hcall fiveMemory (by decide +kernel)⟩

end Memory

end DeskCalc
