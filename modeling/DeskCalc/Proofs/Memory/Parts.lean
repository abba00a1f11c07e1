import DeskCalc.Proofs.Memory.Entering
import DeskCalc.Table.Lemmas

/-! # The two parts of the memory

Lines act on the variables and on the functions apart: what becomes of the one part never depends on the other.

* `Memory.valuesAfter`, `Memory.functionsAfter`: what a line does to each part.
* `Memory.after_enter_eq`, `Memory.afterLines_eq`: this is all that a line does, and all that many lines do.
* `Memory.answer_display`, `Memory.answer_assign`: the answers that the variables alone decide.
-/

namespace DeskCalc.Memory
open DeskCalc.Number DeskCalc.Text
set_option autoImplicit false

variable {α : Type} [Scalar α]

/-! ## What is left -/

/-- An assignment sets a variable, if its expression has a value. -/
def valuesAfter (values : Table α) (line : String) : Table α :=
  match (Command.read line : Except Fault (Option (Command α))) with
  | .ok (some (.assign name tokens)) =>
    match (DeskCalc.evaluate (.ofShared values) tokens).outcome with
    | .ok x => values.insert name x
    | .error _ => values
  | _ => values

/-- A definition sets a function. -/
def functionsAfter (functions : Table (Formula α)) (line : String) : Table (Formula α) :=
  match Command.read line with
  | .ok (some (.define f)) => functions.insert f.name f
  | _ => functions

theorem after_enter_eq (m : Memory α) (line : String) :
    m.after (m.enter line) = ⟨valuesAfter m.values line, functionsAfter m.functions line⟩ := by
  rw [valuesAfter, functionsAfter]
  cases hread : (Command.read line : Except Fault (Option (Command α))) with
  | error e =>
    rw [enter_of_unreadable m hread]
    exact after_of_error rfl
  | ok read =>
    cases read with
    | none =>
      rw [enter_of_blank m hread]
      exact after_of_ok rfl
    | some command =>
      rw [enter_of_command m hread]
      cases command with
      | display tokens => exact after_display m tokens
      | call name arguments => exact after_call m name arguments
      | define f => exact after_define m f
      | assign name tokens =>
        dsimp only
        cases hx : (DeskCalc.evaluate (.ofShared m.values) tokens).outcome with
        | ok x => exact after_assign_of_ok hx
        | error e => exact after_assign_of_error hx

theorem values_after_enter (m : Memory α) (line : String) :
    (m.after (m.enter line)).values = valuesAfter m.values line := by
  rw [after_enter_eq]

theorem functions_after_enter (m : Memory α) (line : String) :
    (m.after (m.enter line)).functions = functionsAfter m.functions line := by
  rw [after_enter_eq]

theorem afterLines_eq (m : Memory α) (lines : List String) :
    m.afterLines lines = ⟨lines.foldl valuesAfter m.values, lines.foldl functionsAfter m.functions⟩ := by
  induction lines generalizing m with
  | nil => rfl
  | cons line lines ih => rw [afterLines_cons, ih, after_enter_eq, List.foldl_cons, List.foldl_cons]

theorem functions_afterLines (m : Memory α) (lines : List String) :
    (m.afterLines lines).functions = lines.foldl functionsAfter m.functions := by
  rw [afterLines_eq]

/-- No variable is ever lost. -/
theorem names_subset_valuesAfter (values : Table α) (line : String) :
    values.names ⊆ (valuesAfter values line).names := by
  unfold valuesAfter
  split
  · split
    · exact values.names_subset_insert _ _
    · exact List.Subset.refl _
  · exact List.Subset.refl _

/-- No function is ever lost. -/
theorem names_subset_functionsAfter (functions : Table (Formula α)) (line : String) :
    functions.names ⊆ (functionsAfter functions line).names := by
  unfold functionsAfter
  split
  · exact functions.names_subset_insert _ _
  · exact List.Subset.refl _

/-! ## What the variables answer -/

theorem answer_display (m : Memory α) (tokens : List (Token α)) :
    Prod.fst <$> m.run (.display tokens) =
      Traced.emit (.evaluating tokens.length) >>= fun _ =>
        DeskCalc.evaluate (.ofShared m.values) tokens >>= fun x => pure (some x) := by
  simp only [run, evaluateTokens, map_bind, map_pure]

theorem answer_assign (m : Memory α) (name : String) (tokens : List (Token α)) :
    Prod.fst <$> m.run (.assign name tokens) =
      DeskCalc.evaluate (.ofShared m.values) tokens >>= fun x =>
        Traced.emit (.assigning x name) >>= fun _ => pure none := by
  simp only [run, evaluateTokens, map_bind, map_pure]

end DeskCalc.Memory
