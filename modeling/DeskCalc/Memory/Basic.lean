import DeskCalc.Command.Reader
import DeskCalc.Evaluation

/-! # The memory of the calculator

Variables and functions that stay from one line to the next.

* `Memory`: both, by name.
* `Memory.evaluate`, `Memory.call`: values that leave the memory as it is.
* `Memory.run`: what a command answers, and the memory after it.
* `Memory.enter`: reading a line and running it. After a fault the memory is the one before the line:
  `Memory.after`.
-/

namespace DeskCalc
open DeskCalc.Number DeskCalc.Text
set_option autoImplicit false

structure Memory (α : Type) where
  values : Table α
  functions : Table (Formula α)
  deriving BEq, DecidableEq

namespace Memory

variable {α : Type}

def empty : Memory α := ⟨∅, ∅⟩

instance : EmptyCollection (Memory α) := ⟨empty⟩

instance : Inhabited (Memory α) := ⟨empty⟩

/-- No other name is touched. -/
def assign (m : Memory α) (name : String) (value : α) : Memory α :=
  { m with values := m.values.insert name value }

/-- A function is found under the name in its formula. -/
def define (m : Memory α) (f : Formula α) : Memory α := { m with functions := m.functions.insert f.name f }

/-- The memory that a line entered into `m` leaves. -/
def after (m : Memory α) (x : Traced α (Option α × Memory α)) : Memory α :=
  match x.outcome with
  | .ok (_, m') => m'
  | .error _ => m

theorem after_of_ok {m m' : Memory α} {x : Traced α (Option α × Memory α)} {v : Option α}
    (h : x.outcome = .ok (v, m')) : m.after x = m' := by
  simp only [after, h]

theorem after_of_error {m : Memory α} {x : Traced α (Option α × Memory α)} {e : Fault}
    (h : x.outcome = .error e) : m.after x = m := by
  simp only [after, h]

/-! ## Values -/

variable [Scalar α]

def evaluateTokens (m : Memory α) (tokens : List (Token α)) : Traced α α :=
  DeskCalc.evaluate (.ofShared m.values) tokens

def evaluate (m : Memory α) (text : String) : Traced α α := do
  let tokens ← Traced.ofExcept (Command.readExpression text.toList)
  m.evaluateTokens tokens

/-! ## Calls -/

/-- A variable, or else a number with sign and exponent if it has them. -/
def argument (m : Memory α) (text : String) : Except Fault α :=
  let text := trimmed text
  match (m.values.get? text).or (Scalar.read? text.toList) with
  | some x => .ok x
  | none => .error (.unknownArgument text)

/-- Binds names to arguments from left to right; of a repeated name the last one counts. -/
def bindArguments (m : Memory α) (pairs : List (String × String)) : Except Fault (Table α) :=
  pairs.foldlM (fun t p => (t.insert p.1 ·) <$> m.argument p.2) ∅

def call (m : Memory α) (name : String) (arguments : List String) : Traced α α :=
  match m.functions.get? name with
  | none => .fail (.undefinedFunction name)
  | some f =>
    if f.arity < arguments.length then .fail (.tooManyArguments name f.arity arguments.length)
    else if arguments.length < f.arity then .fail (.tooFewArguments name f.arity arguments.length)
    else do
      let own ← Traced.ofExcept (m.bindArguments (f.params.zip arguments))
      Traced.emit (.calling name own)
      DeskCalc.evaluate ⟨own, m.values⟩ f.body

/-! ## Commands -/

def run (m : Memory α) : Command α → Traced α (Option α × Memory α)
  | .display tokens => do
    Traced.emit (.evaluating tokens.length)
    let x ← m.evaluateTokens tokens
    pure (some x, m)
  | .assign name tokens => do
    let x ← m.evaluateTokens tokens
    Traced.emit (.assigning x name)
    pure (none, m.assign name x)
  | .define f => do
    Traced.emit (.defining f)
    pure (none, m.define f)
  | .call name arguments => do
    let x ← m.call name arguments
    pure (some x, m)

def enter (m : Memory α) (line : String) : Traced α (Option α × Memory α) := do
  match ← Traced.ofExcept (Command.read line) with
  | none => pure (none, m)
  | some command => m.run command

end Memory

/-- The value of a text in which all names are unknown. -/
def evaluateText {α : Type} [Scalar α] (text : String) : Traced α α := evaluate .empty (Token.ofText text)

end DeskCalc
