import DeskCalc.Proofs.Expression.Basic

/-! # Which rows are expressions

A row of tokens is derivable from the grammar if and only if its operands and operators alternate and its parentheses
balance. Both conditions are found by one look at each token.

* `Derivable`: the tokens of some sum.
* `Alternates`: an operand or `(` at the start and behind every operator and `(`, nothing of the kind elsewhere.
* `Balanced`: every `)` closes a `(`, and all are closed in the end.
* `derivable_iff`: the three say the same.
-/

namespace DeskCalc
set_option autoImplicit false

variable {α : Type}

def Derivable (ts : List (Token α)) : Prop := ∃ e : Expression α .sum, e.tokens = ts

/-- Whether operands and operators take turns, where `due` says that an operand comes next. -/
def alternate (due : Bool) : List (Token α) → Bool
  | [] => !due
  | .number _ :: ts => due && alternate false ts
  | .name _ :: ts => due && alternate false ts
  | .opening :: ts => due && alternate true ts
  | .closing :: ts => !due && alternate false ts
  | .operator _ :: ts => !due && alternate true ts

def Alternates (ts : List (Token α)) : Prop := alternate true ts = true

instance (ts : List (Token α)) : Decidable (Alternates ts) := inferInstanceAs (Decidable (_ = true))

/-- How many groups are open behind a row that begins inside `d` groups. None of them may be closed twice. -/
def depth? (d : Nat) : List (Token α) → Option Nat
  | [] => some d
  | .opening :: ts => depth? (d + 1) ts
  | .closing :: ts => if d = 0 then none else depth? (d - 1) ts
  | _ :: ts => depth? d ts

def Balanced (ts : List (Token α)) : Prop := depth? 0 ts = some 0

instance (ts : List (Token α)) : Decidable (Balanced ts) := inferInstanceAs (Decidable (_ = _))

/-! ## Derivable rows alternate and balance -/

theorem alternate_tokens {tier : Tier} (e : Expression α tier) (rest : List (Token α)) :
    alternate true (e.tokens ++ rest) = alternate false rest := by
  induction e generalizing rest with
  | number x => rfl
  | name s => rfl
  | group inner ih =>
    rw [Expression.tokens, List.append_assoc, List.cons_append, alternate, ih]
    rfl
  | single e ih => exact ih rest
  | chain left op _ right ihl ihr =>
    rw [Expression.tokens, List.append_assoc, ihl, List.cons_append, alternate, ihr]
    rfl

theorem depth?_tokens {tier : Tier} (e : Expression α tier) (d : Nat) (rest : List (Token α)) :
    depth? d (e.tokens ++ rest) = depth? d rest := by
  induction e generalizing d rest with
  | number x => rfl
  | name s => rfl
  | group inner ih =>
    rw [Expression.tokens, List.append_assoc, List.cons_append, depth?, ih]
    rfl
  | single e ih => exact ih d rest
  | chain left op _ right ihl ihr =>
    rw [Expression.tokens, List.append_assoc, ihl, List.cons_append, depth?, ihr]
    all_goals simp

/-! ## Rows that alternate and balance are derivable -/

namespace Expression

/-- A sum goes on with an operator and a factor. An operator of the products takes over the last product. -/
theorem exists_extend (e : Expression α .sum) (op : Operator) (f : Expression α .factor) :
    ∃ e' : Expression α .sum, e'.tokens = e.tokens ++ .operator op :: f.tokens := by
  cases hop : op.tier with
  | sum => exact ⟨.chain e op hop (.single f), rfl⟩
  | product =>
    cases e with
    | single p => exact ⟨.single (.chain p op hop f), rfl⟩
    | chain left op' h' right =>
      refine ⟨.chain left op' h' (.chain right op hop f), ?_⟩
      exact (List.append_assoc left.tokens (.operator op' :: right.tokens) (.operator op :: f.tokens)).symm
  | factor => cases op <;> cases hop

end Expression

/-- What may stand before an operand of a group: nothing, or a sum with an operator behind it. -/
def Opened (before : List (Token α)) : Prop :=
  before = [] ∨ ∃ (e : Expression α .sum) (op : Operator), before = e.tokens ++ [.operator op]

theorem Opened.exists_sum {before : List (Token α)} (h : Opened before) (f : Expression α .factor) :
    ∃ e : Expression α .sum, e.tokens = before ++ f.tokens := by
  rcases h with rfl | ⟨e, op, rfl⟩
  · exact ⟨.single (.single f), rfl⟩
  · obtain ⟨e', he'⟩ := e.exists_extend op f
    exact ⟨e', by rw [he', List.append_assoc, List.singleton_append]⟩

/-- The tokens before the innermost open group, given what stands before each `(`, the innermost one first. -/
def outside : List (List (Token α)) → List (Token α)
  | [] => []
  | before :: outer => outside outer ++ before ++ [.opening]

/-- The rest of a row completes whatever has been read of it: in each open group a part that waits for an operand, and
in the innermost one such a part too, or a sum. -/
theorem derivable_of_rest (rest : List (Token α)) (outer : List (List (Token α))) (houter : ∀ b ∈ outer, Opened b)
    (hdepth : depth? outer.length rest = some 0) :
    (alternate true rest = true → ∀ before, Opened before → Derivable (outside outer ++ before ++ rest)) ∧
      (alternate false rest = true → ∀ e : Expression α .sum, Derivable (outside outer ++ e.tokens ++ rest)) := by
  induction rest generalizing outer with
  | nil =>
    have hnil : outer = [] := List.eq_nil_of_length_eq_zero (Option.some.inj hdepth)
    subst hnil
    exact ⟨fun h => by simp [alternate] at h, fun _ e => ⟨e, by simp [outside]⟩⟩
  | cons t rest ih =>
    -- A factor is joined to what waits for it, and the rest goes on behind a sum.
    have factor : ∀ (f : Expression α .factor) (outer : List (List (Token α))), (∀ b ∈ outer, Opened b) →
        depth? outer.length rest = some 0 → alternate false rest = true → ∀ before, Opened before →
        Derivable (outside outer ++ before ++ (f.tokens ++ rest)) := by
      intro f outer houter hdepth halt before hbefore
      obtain ⟨e, he⟩ := hbefore.exists_sum f
      have h := (ih outer houter hdepth).2 halt e
      rwa [he, List.append_assoc, List.append_assoc, ← List.append_assoc] at h
    cases t with
    | number x =>
      refine ⟨fun h => factor (.number x) outer houter hdepth (by simpa [alternate] using h), fun h => ?_⟩
      simp [alternate] at h
    | name s =>
      refine ⟨fun h => factor (.name s) outer houter hdepth (by simpa [alternate] using h), fun h => ?_⟩
      simp [alternate] at h
    | opening =>
      refine ⟨fun h before hbefore => ?_, fun h => by simp [alternate] at h⟩
      have h' := (ih (before :: outer) (by simpa using ⟨hbefore, houter⟩) hdepth).1 (by simpa [alternate] using h) []
        (.inl rfl)
      simpa [outside] using h'
    | closing =>
      refine ⟨fun h => by simp [alternate] at h, fun h e => ?_⟩
      cases outer with
      | nil => simp [depth?] at hdepth
      | cons before outer =>
        have h' := factor (.group e) outer (fun b hb => houter b (.tail _ hb)) (by simpa [depth?] using hdepth)
          (by simpa [alternate] using h) before (houter before (.head _))
        simpa [outside, Expression.tokens] using h'
    | operator op =>
      refine ⟨fun h => by simp [alternate] at h, fun h e => ?_⟩
      have h' := (ih outer houter hdepth).1 (by simpa [alternate] using h) (e.tokens ++ [.operator op])
        (.inr ⟨e, op, rfl⟩)
      simpa using h'

theorem derivable_iff {ts : List (Token α)} : Derivable ts ↔ Alternates ts ∧ Balanced ts := by
  constructor
  · rintro ⟨e, rfl⟩
    have halt := alternate_tokens e []
    have hdepth := depth?_tokens e 0 []
    rw [List.append_nil] at halt hdepth
    exact ⟨halt, hdepth⟩
  · intro ⟨halt, hbal⟩
    have h := (derivable_of_rest ts [] (fun _ h => nomatch h) hbal).1 halt [] (.inl rfl)
    simpa [outside] using h

instance (ts : List (Token α)) : Decidable (Derivable ts) := decidable_of_iff _ derivable_iff.symm

end DeskCalc
