import DeskCalc.Memory.Basic
import Mathlib.Tactic.Common

/-! # Entering lines

What one line does to the memory, and what many lines do.

* `Memory.after_enter_cases`: a line changes nothing, or sets one variable, or sets one function.
* `Memory.Traceless`, `Memory.Traceless.after_eq`: the lines that change nothing whatever the memory is, or because they
  fail.
* `Memory.afterLines`, `Memory.answers`: the memory after some lines, and what each of them answers and reports.
* `Memory.without_traceless`: a run without some of its traceless lines.
-/

namespace DeskCalc
open DeskCalc.Number DeskCalc.Text
set_option autoImplicit false

namespace Memory

variable {α : Type}

/-! ## One line -/

/-- A computation that ends with the memory it started from. -/
theorem after_keeping {β : Type} (m : Memory α) (x : Traced α β) (answer : β → Option α) :
    m.after (x >>= fun b => pure (answer b, m)) = m := by
  cases hx : x.outcome with
  | ok b =>
    rw [Traced.bind_of_ok hx]
    exact after_of_ok rfl
  | error e =>
    rw [Traced.bind_of_error hx]
    exact after_of_error rfl

variable [Scalar α]

theorem enter_of_unreadable (m : Memory α) {line : String} {e : Fault}
    (h : (Command.read line : Except Fault (Option (Command α))) = .error e) : m.enter line = .fail e := by
  rw [enter, h]
  rfl

theorem enter_of_blank (m : Memory α) {line : String}
    (h : (Command.read line : Except Fault (Option (Command α))) = .ok none) : m.enter line = pure (none, m) := by
  rw [enter, h]
  rfl

theorem enter_of_command (m : Memory α) {line : String} {command : Command α}
    (h : Command.read line = .ok (some command)) : m.enter line = m.run command := by
  rw [enter, h]
  rfl

theorem after_display (m : Memory α) (tokens : List (Token α)) : m.after (m.run (.display tokens)) = m := by
  rw [run, ← bind_assoc]
  exact after_keeping m _ some

theorem after_call (m : Memory α) (name : String) (arguments : List String) :
    m.after (m.run (.call name arguments)) = m :=
  after_keeping m (m.call name arguments) some

theorem after_define (m : Memory α) (f : Formula α) : m.after (m.run (.define f)) = m.define f := rfl

theorem after_assign_of_ok {m : Memory α} {name : String} {tokens : List (Token α)} {x : α}
    (h : (m.evaluateTokens tokens).outcome = .ok x) : m.after (m.run (.assign name tokens)) = m.assign name x := by
  rw [run, Traced.bind_of_ok h]
  exact after_of_ok rfl

theorem after_assign_of_error {m : Memory α} {name : String} {tokens : List (Token α)} {e : Fault}
    (h : (m.evaluateTokens tokens).outcome = .error e) : m.after (m.run (.assign name tokens)) = m := by
  rw [run, Traced.bind_of_error h]
  exact after_of_error rfl

/-- Everything that a line can do to the memory. -/
theorem after_enter_cases (m : Memory α) (line : String) :
    m.after (m.enter line) = m ∨
      (∃ name tokens x, Command.read line = .ok (some (.assign name tokens)) ∧
        (m.evaluateTokens tokens).outcome = .ok x ∧ m.after (m.enter line) = m.assign name x) ∨
      ∃ f, Command.read line = .ok (some (.define f)) ∧ m.after (m.enter line) = m.define f := by
  cases hread : (Command.read line : Except Fault (Option (Command α))) with
  | error e =>
    rw [enter_of_unreadable m hread]
    exact .inl (after_of_error rfl)
  | ok read =>
    cases read with
    | none =>
      rw [enter_of_blank m hread]
      exact .inl (after_of_ok rfl)
    | some command =>
      rw [enter_of_command m hread]
      cases command with
      | display tokens => exact .inl (after_display m tokens)
      | call name arguments => exact .inl (after_call m name arguments)
      | define f => exact .inr (.inr ⟨f, rfl, after_define m f⟩)
      | assign name tokens =>
        cases hx : (m.evaluateTokens tokens).outcome with
        | error e => exact .inl (after_assign_of_error hx)
        | ok x => exact .inr (.inl ⟨name, tokens, x, rfl, hx, after_assign_of_ok hx⟩)

/-- The lines that leave no trace. -/
inductive Traceless (m : Memory α) (line : String) : Prop where
  | blank (h : allBlank line.toList = true)
  | fault (e : Fault) (h : (m.enter line).outcome = .error e)
  | display (tokens : List (Token α)) (h : Command.read line = .ok (some (.display tokens)))
  | call (name : String) (arguments : List String)
    (h : (Command.read line : Except Fault (Option (Command α))) = .ok (some (.call name arguments)))

theorem Traceless.after_eq {m : Memory α} {line : String} (h : Traceless m line) : m.after (m.enter line) = m := by
  cases h with
  | blank h =>
    rw [enter_of_blank m (by rw [Command.read, if_pos h])]
    exact after_of_ok rfl
  | fault e h => exact after_of_error h
  | display tokens h =>
    rw [enter_of_command m h]
    exact after_display m tokens
  | call name arguments h =>
    rw [enter_of_command m h]
    exact after_call m name arguments

/-! ## Many lines -/

/-- The memory after some lines. A line that fails does not end them. -/
def afterLines (m : Memory α) (lines : List String) : Memory α := lines.foldl (fun m line => m.after (m.enter line)) m

@[simp] theorem afterLines_nil (m : Memory α) : m.afterLines [] = m := rfl

@[simp] theorem afterLines_cons (m : Memory α) (line : String) (lines : List String) :
    m.afterLines (line :: lines) = (m.after (m.enter line)).afterLines lines := rfl

theorem afterLines_append (m : Memory α) (lines more : List String) :
    m.afterLines (lines ++ more) = (m.afterLines lines).afterLines more :=
  List.foldl_append

/-- The value, nothing, or the fault of each line, with its reports. -/
def answers (m : Memory α) : List String → List (Traced α (Option α))
  | [] => []
  | line :: lines => (Prod.fst <$> m.enter line) :: answers (m.after (m.enter line)) lines

/-- An induction for what every line preserves. -/
theorem afterLines_induction {P : Memory α → Prop} (hstep : ∀ m line, P m → P (m.after (m.enter line)))
    {m : Memory α} (h : P m) (lines : List String) : P (m.afterLines lines) := by
  induction lines generalizing m with
  | nil => exact h
  | cons line lines ih => exact ih (hstep m line h)

/-! ## Leaving lines out -/

/-- The list without the places that are dropped. -/
def without {β : Type} (dropped : Nat → Bool) (xs : List β) : List β :=
  (xs.zipIdx.filter fun p => !dropped p.2).map Prod.fst

theorem without_cons {β : Type} (dropped : Nat → Bool) (x : β) (xs : List β) :
    without dropped (x :: xs) =
      if dropped 0 then without (dropped <| · + 1) xs else x :: without (dropped <| · + 1) xs := by
  have htail : ((xs.zipIdx.map (Prod.map id (· + 1))).filter fun p => !dropped p.2).map Prod.fst =
      without (dropped <| · + 1) xs := by
    rw [List.filter_map, List.map_map]
    rfl
  rw [without, List.zipIdx_cons', List.filter_cons, ← htail]
  cases dropped 0 <;> rfl

/-- Deleting traceless lines changes neither the memory at the end nor any answer that is left. -/
theorem without_traceless (m : Memory α) (lines : List String) (dropped : Nat → Bool)
    (h : ∀ i line, lines[i]? = some line → dropped i = true → Traceless (m.afterLines (lines.take i)) line) :
    m.afterLines (without dropped lines) = m.afterLines lines ∧
      m.answers (without dropped lines) = without dropped (m.answers lines) := by
  induction lines generalizing m dropped with
  | nil => exact ⟨rfl, rfl⟩
  | cons line lines ih =>
    have hrest : ∀ i l, lines[i]? = some l → dropped (i + 1) = true →
        Traceless ((m.after (m.enter line)).afterLines (lines.take i)) l :=
      fun i l hl hd => h (i + 1) l hl hd
    obtain ⟨hmemory, hanswers⟩ := ih (m.after (m.enter line)) (dropped <| · + 1) hrest
    rw [answers, without_cons, without_cons]
    split
    · next hd =>
      have hkeep : m.after (m.enter line) = m := (h 0 line rfl hd).after_eq
      rw [hkeep] at hmemory hanswers
      rw [hkeep]
      exact ⟨by rw [afterLines_cons, hkeep, hmemory], hanswers⟩
    · exact ⟨by rw [afterLines_cons, afterLines_cons, hmemory], by rw [answers, hanswers]⟩

/-- A session of which a failing definition, a failing call, a failing assignment and an expression are left out. -/
def sessionLines : List String := ["def f(a) = a", "def f(1) = 2", "f(1, 2)", "x = y / 0", "", "1 + 2", "x = 3"]

theorem without_traceless_session :
    (∅ : Memory Float).afterLines ["def f(a) = a", "x = 3"] = (∅ : Memory Float).afterLines sessionLines ∧
      (∅ : Memory Float).answers ["def f(a) = a", "x = 3"] =
        without (fun i => 1 ≤ i && i ≤ 5) ((∅ : Memory Float).answers sessionLines) := by
  apply without_traceless ∅ sessionLines (fun i => 1 ≤ i && i ≤ 5)
  intro i line hline hdropped
  obtain ⟨h1, h5⟩ : 1 ≤ i ∧ i ≤ 5 := by simpa using hdropped
  have hi : i = 1 ∨ i = 2 ∨ i = 3 ∨ i = 4 ∨ i = 5 := by omega
  rcases hi with rfl | rfl | rfl | rfl | rfl <;> cases hline
  · exact .fault (.malformedParameter "1") (by decide +kernel)
  · exact .call "f" ["1", "2"] (by decide +kernel)
  · exact .fault (.undefinedName "y") (by decide +kernel)
  · exact .blank (by decide +kernel)
  · exact .display (Token.ofText "1 + 2") (by decide +kernel)

end Memory

end DeskCalc
