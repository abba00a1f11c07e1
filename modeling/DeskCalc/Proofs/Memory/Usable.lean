import DeskCalc.Proofs.Expression.Evaluation
import DeskCalc.Proofs.Memory.History
import DeskCalc.Proofs.Memory.Routes

/-! # Whatever is stored can be used

Every variable that lines have left shows its value when its name is entered, and every function can be called by a
line, also where a variable has the same name: no name that can be stored is read as anything else.

* `Memory.freeName_of_value`, `Memory.freeName_of_function`: what is stored has been written under a name that the
  keyword does not take.
* `Memory.enter_name`: the name of a variable as a line.
* `Memory.stored_usable`: variables and functions after any lines.
-/

namespace DeskCalc
open DeskCalc.Number DeskCalc.Text
set_option autoImplicit false

variable {α : Type}

/-! ## Stored names -/

/-- What was not there before has been written. -/
theorem Latest.exists_written {β : Type} {writes : Nat → β → Prop} {x : β} (h : Latest writes none (some x)) :
    ∃ i, writes i x := by
  cases h with
  | written i _ h => exact ⟨i, h⟩

variable [Scalar α]

namespace Memory

theorem freeName_of_value {lines : List String} {name : String} {x : α}
    (h : ((∅ : Memory α).afterLines lines).values.get? name = some x) : Command.FreeName name := by
  have hlatest := latest_values (∅ : Memory α) lines name
  rw [h] at hlatest
  obtain ⟨_, _, ⟨_, _, hread, _⟩, _⟩ := Latest.exists_written hlatest
  exact Command.freeName_of_read hread

theorem freeName_of_function {lines : List String} {name : String} {f : Formula α}
    (h : ((∅ : Memory α).afterLines lines).functions.get? name = some f) : Command.FreeName name := by
  have hlatest := latest_functions (∅ : Memory α) lines name
  rw [h] at hlatest
  obtain ⟨_, rfl, _, _, hread, _⟩ := Latest.exists_written hlatest
  exact Command.freeName_of_define hread

/-! ## Names as lines -/

theorem evaluateTokens_name (m : Memory α) {name : String} {x : α} (h : m.values.get? name = some x) :
    (m.evaluateTokens [.name name]).outcome = .ok x := by
  have htree := Expression.evaluate_tokens (.ofShared m.values) (.single (.single (.name name)) : Expression α .sum)
  have hvalue := Expression.value_name (.ofShared m.values) name
  rw [Scope.find?_ofShared, h] at hvalue
  exact (congrArg Traced.outcome htree).trans hvalue

theorem enter_name {m : Memory α} {name : String} {x : α} (hname : Command.FreeName name)
    (h : m.values.get? name = some x) : (m.enter name).outcome = .ok (some x, m) := by
  rw [enter_of_command m (Command.read_name hname), run, Traced.outcome_bind, Traced.outcome_bind,
    evaluateTokens_name m h]
  rfl

/-- After any lines, the name of a variable is a line that shows its value, and a call is a line that shows what its
function gives for the arguments. -/
theorem stored_usable (lines : List String) :
    (∀ name x, ((∅ : Memory α).afterLines lines).values.get? name = some x →
      (((∅ : Memory α).afterLines lines).enter name).outcome = .ok (some x, (∅ : Memory α).afterLines lines)) ∧
    ∀ name f (arguments : List String), ((∅ : Memory α).afterLines lines).functions.get? name = some f →
      (∀ a ∈ arguments, Command.Argument a) →
      (((∅ : Memory α).afterLines lines).enter (name ++ "(" ++ ", ".intercalate arguments ++ ")")).outcome =
        (((∅ : Memory α).afterLines lines).call name arguments).outcome.map
          fun x => (some x, (∅ : Memory α).afterLines lines) := by
  constructor
  · intro name x hx
    exact enter_name (freeName_of_value hx) hx
  · intro name f arguments hf harguments
    exact enter_call _ (freeName_of_function hf) harguments

/-- A variable and a function of the same name. -/
def sharedLines : List String := ["define = 2", "def define(a, inf) = a * inf + define"]

theorem stored_usable_shared :
    (((∅ : Memory Float).afterLines sharedLines).enter "define").outcome =
        .ok (some 2.0, (∅ : Memory Float).afterLines sharedLines) ∧
      (((∅ : Memory Float).afterLines sharedLines).enter
          ("define" ++ "(" ++ ", ".intercalate ["-1e1", "define"] ++ ")")).outcome =
        (((∅ : Memory Float).afterLines sharedLines).call "define" ["-1e1", "define"]).outcome.map
          fun x => (some x, (∅ : Memory Float).afterLines sharedLines) := by
  have h := stored_usable (α := Float) sharedLines
  have harguments : ∀ a ∈ ["-1e1", "define"], Command.Argument a := by decide +kernel
  exact ⟨h.1 "define" 2.0 (by decide +kernel),
    h.2 "define" ⟨"define", ["a", "inf"], Token.ofText "a * inf + define"⟩ _ (by decide +kernel) harguments⟩

end Memory

end DeskCalc
