import DeskCalc.Proofs.Memory.Parts

/-! # Variables and functions apart

An expression sees the variables and no function. A call sees the variables and its own function, and a definition sees
nothing of the memory.

* `Command.readsAs`: the lines of a kind. `Command.isDefine`, `Command.concernsFunctions`: two kinds of commands.
* `Memory.answer_eq_of_values_eq`, `Memory.call_congr`: what an answer depends on.
* `Memory.without_functions`: a run without the lines that concern functions.
* `Memory.definitions_only`: a run of its definitions alone.
* `Memory.separate_afterLines`: all of this about one run.
-/

namespace DeskCalc
open DeskCalc.Number DeskCalc.Text
set_option autoImplicit false

variable {α : Type}

/-! ## Kinds of lines -/

namespace Command

def isDefine : Command α → Bool
  | .define _ => true
  | _ => false

def concernsFunctions : Command α → Bool
  | .define _ | .call .. => true
  | _ => false

/-- The line can be read, and is a command of this kind. -/
def readsAs [Scalar α] (kind : Command α → Bool) (line : String) : Bool :=
  match read line with
  | .ok (some command) => kind command
  | _ => false

theorem readsAs_of_read [Scalar α] {line : String} {command : Command α} (h : read line = .ok (some command))
    (kind : Command α → Bool) : readsAs kind line = kind command := by
  rw [readsAs, h]

end Command

namespace Memory

variable [Scalar α]

theorem valuesAfter_of_concernsFunctions {line : String}
    (h : Command.readsAs (Command.concernsFunctions : Command α → Bool) line = true) (values : Table α) :
    valuesAfter values line = values := by
  unfold valuesAfter
  split
  · next hread =>
    rw [Command.readsAs_of_read hread] at h
    cases h
  · rfl

theorem functionsAfter_of_not_isDefine {line : String}
    (h : Command.readsAs (Command.isDefine : Command α → Bool) line = false) (functions : Table (Formula α)) :
    functionsAfter functions line = functions := by
  unfold functionsAfter
  split
  · next hread =>
    rw [Command.readsAs_of_read hread] at h
    cases h
  · rfl

/-! ## Answers -/

theorem answer_eq_of_values_eq {m n : Memory α} (h : m.values = n.values) {line : String}
    (hline : Command.readsAs (Command.concernsFunctions : Command α → Bool) line = false) :
    Prod.fst <$> m.enter line = Prod.fst <$> n.enter line := by
  cases hread : (Command.read line : Except Fault (Option (Command α))) with
  | error e =>
    rw [enter_of_unreadable m hread, enter_of_unreadable n hread]
  | ok read =>
    cases read with
    | none =>
      rw [enter_of_blank m hread, enter_of_blank n hread]
      rfl
    | some command =>
      rw [Command.readsAs_of_read hread] at hline
      rw [enter_of_command m hread, enter_of_command n hread]
      cases command with
      | display tokens => rw [answer_display, answer_display, h]
      | assign name tokens => rw [answer_assign, answer_assign, h]
      | define f => cases hline
      | call name arguments => cases hline

theorem call_congr {m n : Memory α} {name : String} (hvalues : m.values = n.values)
    (hfunction : m.functions.get? name = n.functions.get? name) (arguments : List String) :
    m.call name arguments = n.call name arguments := by
  obtain ⟨values, functions⟩ := m
  obtain ⟨values', functions'⟩ := n
  cases hvalues
  dsimp only at hfunction
  rw [call, call, hfunction]
  rfl

/-! ## Runs -/

/-- The lines of a run that do not concern functions. -/
def valueLines (α : Type) [Scalar α] (lines : List String) : List String :=
  lines.filter fun line => !Command.readsAs (Command.concernsFunctions : Command α → Bool) line

/-- The definitions of a run. -/
def definitionLines (α : Type) [Scalar α] (lines : List String) : List String :=
  lines.filter (Command.readsAs (Command.isDefine : Command α → Bool))

/-- The lines that are left have the answers that they have in the whole run. -/
theorem without_functions {m n : Memory α} (h : m.values = n.values) (lines : List String) :
    (n.afterLines (valueLines α lines)).values = (m.afterLines lines).values ∧
      (valueLines α lines).zip (n.answers (valueLines α lines)) =
        (lines.zip (m.answers lines)).filter fun p =>
          !Command.readsAs (Command.concernsFunctions : Command α → Bool) p.1 := by
  -- both runs have the same variables all the time, though not the same functions
  induction lines generalizing m n with
  | nil => exact ⟨h.symm, rfl⟩
  | cons line lines ih =>
    rw [valueLines, answers, List.zip_cons_cons, List.filter_cons, List.filter_cons, ← valueLines]
    dsimp only
    cases hline : Command.readsAs (Command.concernsFunctions : Command α → Bool) line with
    | false =>
      have hafter : (m.after (m.enter line)).values = (n.after (n.enter line)).values := by
        rw [values_after_enter, values_after_enter, h]
      obtain ⟨hvalues, hanswers⟩ := ih hafter
      rw [Bool.not_false, if_pos rfl, if_pos rfl, answers, List.zip_cons_cons, hanswers, answer_eq_of_values_eq h hline]
      exact ⟨hvalues, rfl⟩
    | true =>
      have hafter : (m.after (m.enter line)).values = n.values := by
        rw [values_after_enter, valuesAfter_of_concernsFunctions hline, h]
      exact ih hafter

theorem definitions_only (m : Memory α) (lines : List String) :
    (m.afterLines (definitionLines α lines)).functions = (m.afterLines lines).functions := by
  rw [functions_afterLines, functions_afterLines]
  generalize m.functions = functions
  induction lines generalizing functions with
  | nil => rfl
  | cons line lines ih =>
    rw [definitionLines, List.filter_cons, List.foldl_cons, ← definitionLines]
    split
    · exact ih _
    · next hline =>
      rw [functionsAfter_of_not_isDefine (by simpa using hline)]
      exact ih functions

/-- Without the lines that concern functions, a run leaves the same variables and gives the same answers; its
definitions alone make the same functions; and a call depends on the variables and on its own function. -/
theorem separate_afterLines (m : Memory α) (lines : List String) :
    ((m.afterLines (valueLines α lines)).values = (m.afterLines lines).values ∧
      (valueLines α lines).zip (m.answers (valueLines α lines)) =
        (lines.zip (m.answers lines)).filter fun p =>
          !Command.readsAs (Command.concernsFunctions : Command α → Bool) p.1) ∧
    (m.afterLines (definitionLines α lines)).functions = (m.afterLines lines).functions ∧
    ∀ (n : Memory α) (name : String) (arguments : List String), m.values = n.values →
      m.functions.get? name = n.functions.get? name → m.call name arguments = n.call name arguments := by
  refine ⟨without_functions rfl lines, definitions_only m lines, ?_⟩
  intro n name arguments hvalues hfunction
  exact call_congr hvalues hfunction arguments

/-- Two memories that share the variable `x` and the function `f`, and nothing else. -/
theorem separate_afterLines_call :
    ((∅ : Memory Float).afterLines ["def f(a) = a * x", "x = 2"]).call "f" ["3"] =
      ((∅ : Memory Float).afterLines ["def g() = 1", "x = 2", "def f(b) = b", "def f(a) = a * x"]).call "f" ["3"] :=
  (separate_afterLines _ ["f(x)", "x = f", "def f(x) = 0"]).2.2 _ "f" ["3"] (by decide +kernel) (by decide +kernel)

end Memory

end DeskCalc
