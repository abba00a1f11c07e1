import DeskCalc.Fault
import DeskCalc.Formula
import DeskCalc.Table.Basic
import DeskCalc.Text.Quoted

/-! # Traces

What a computation reports while it runs.

* `Event`: the reports, with `Event.level` and `Event.message`.
* `Traced`: a computation with the reports it made, in order, and its value or its fault. Reports made before a
  fault are kept.
-/

namespace DeskCalc
open DeskCalc.Number DeskCalc.Text
set_option autoImplicit false

/-! ## Events -/

inductive Event (α : Type) where
  | reduced (left : α) (op : Operator) (right result : α)
  | evaluating (count : Nat)
  | assigning (value : α) (name : String)
  | defining (formula : Formula α)
  | calling (name : String) (arguments : Table α)
  | skipping (invalid : Utf8.Invalid)

inductive Level where
  | warn
  | debug
  | trace
  deriving DecidableEq, Repr

/-- The text of a table of numbers, names quoted. -/
def Table.description {α : Type} [Scalar α] (t : Table α) : String :=
  let binding (p : String × α) : String := quoted p.1 ++ ": " ++ Scalar.text p.2
  "Environment \x7b bindings: \x7b" ++ ", ".intercalate (t.entries.map binding) ++ "\x7d \x7d"

namespace Event

variable {α : Type}

def level : Event α → Level
  | reduced .. => .trace
  | skipping _ => .warn
  | _ => .debug

def message [Scalar α] : Event α → String
  | reduced a op b r => s!"reduced {Scalar.text a} {op.text} {Scalar.text b} to {Scalar.text r}"
  | evaluating count => s!"evaluating {count} tokens"
  | assigning value name => s!"assigning {Scalar.text value} to {name}"
  | defining formula => s!"defining {formula.text}"
  | calling name arguments => s!"calling {name} with {arguments.description}"
  | skipping invalid => s!"skipping line with invalid UTF-8, {invalid.message}"

end Event

/-! ## Traced computations -/

structure Traced (α β : Type) where
  events : List (Event α)
  outcome : Except Fault β

namespace Traced

variable {α β γ δ : Type}

protected def pure (b : β) : Traced α β := ⟨[], .ok b⟩

protected def bind (x : Traced α β) (f : β → Traced α γ) : Traced α γ :=
  match x.outcome with
  | .ok b =>
    let y := f b
    ⟨x.events ++ y.events, y.outcome⟩
  | .error e => ⟨x.events, .error e⟩

instance : Monad (Traced α) where
  pure := Traced.pure
  bind := Traced.bind

def emit (event : Event α) : Traced α Unit := ⟨[event], .ok ()⟩

def fail (fault : Fault) : Traced α β := ⟨[], .error fault⟩

def ofExcept (outcome : Except Fault β) : Traced α β := ⟨[], outcome⟩

@[simp] theorem outcome_pure (b : β) : (pure b : Traced α β).outcome = .ok b := rfl

@[simp] theorem events_pure (b : β) : (pure b : Traced α β).events = [] := rfl

@[simp] theorem pure_bind (b : β) (f : β → Traced α γ) : (pure b >>= f : Traced α γ) = f b := rfl

theorem bind_of_ok {x : Traced α β} {b : β} (h : x.outcome = .ok b) (f : β → Traced α γ) :
    (x >>= f) = ⟨x.events ++ (f b).events, (f b).outcome⟩ := by
  change Traced.bind x f = _
  simp only [Traced.bind, h]

theorem bind_of_error {x : Traced α β} {e : Fault} (h : x.outcome = .error e) (f : β → Traced α γ) :
    (x >>= f) = ⟨x.events, .error e⟩ := by
  change Traced.bind x f = _
  simp only [Traced.bind, h]

theorem outcome_bind (x : Traced α β) (f : β → Traced α γ) :
    (x >>= f).outcome = x.outcome.bind fun b => (f b).outcome := by
  cases h : x.outcome with
  | ok b => rw [bind_of_ok h]; rfl
  | error e => rw [bind_of_error h]; rfl

theorem outcome_bind_eq_ok {x : Traced α β} {f : β → Traced α γ} {c : γ} :
    (x >>= f).outcome = .ok c ↔ ∃ b, x.outcome = .ok b ∧ (f b).outcome = .ok c := by
  rw [outcome_bind]
  cases x.outcome with
  | ok b => simp [Except.bind]
  | error e => simp [Except.bind]

theorem outcome_bind_eq_error {x : Traced α β} {f : β → Traced α γ} {e : Fault} :
    (x >>= f).outcome = .error e ↔ x.outcome = .error e ∨ ∃ b, x.outcome = .ok b ∧ (f b).outcome = .error e := by
  rw [outcome_bind]
  cases x.outcome with
  | ok b => simp [Except.bind]
  | error e' => simp [Except.bind]

instance : LawfulMonad (Traced α) := LawfulMonad.mk' (Traced α)
  (by
    intro β x
    cases h : x.outcome with
    | ok b => exact (bind_of_ok h _).trans (by cases x; simp_all [Traced.pure])
    | error e => exact (bind_of_error h _).trans (by cases x; simp_all))
  (fun _ _ => rfl)
  (by
    intro β γ δ x f g
    cases h : x.outcome with
    | error e => rw [bind_of_error h, bind_of_error h]; rfl
    | ok b =>
      rw [bind_of_ok h, bind_of_ok h]
      cases h2 : (f b).outcome with
      | error e => rw [bind_of_error h2, bind_of_error rfl]
      | ok c => rw [bind_of_ok h2, bind_of_ok rfl, List.append_assoc])

end Traced

end DeskCalc
