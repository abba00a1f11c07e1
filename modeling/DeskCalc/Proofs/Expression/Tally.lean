import DeskCalc.Proofs.Expression.Grammar
import Mathlib.Tactic.Common

/-! # Counting tokens

* `Role`, `tally`: how many operands, operators and parentheses a row has.
* `Paired`: no beginning of a row closes more groups than it opens, and the whole row closes all of them.
* `depth?_eq_some_iff`, `balanced_iff_paired`: the depth of a row is told by these counts.
-/

namespace DeskCalc
set_option autoImplicit false

variable {α : Type}

/-! ## Roles -/

inductive Role where
  | operand
  | operator
  | opening
  | closing
  deriving DecidableEq, Repr

def Token.role : Token α → Role
  | number _ | name _ => .operand
  | operator _ => .operator
  | opening => .opening
  | closing => .closing

/-- How many tokens of a row have this role. -/
def tally (role : Role) (ts : List (Token α)) : Nat := (ts.map Token.role).count role

@[simp] theorem tally_nil (role : Role) : tally role ([] : List (Token α)) = 0 := rfl

theorem tally_cons (role : Role) (t : Token α) (ts : List (Token α)) :
    tally role (t :: ts) = tally role ts + if t.role = role then 1 else 0 := by
  simp [tally, List.count_cons]

theorem tally_append (role : Role) (ts us : List (Token α)) :
    tally role (ts ++ us) = tally role ts + tally role us := by
  simp [tally]

/-! ## Pairs of parentheses -/

structure Paired (ts : List (Token α)) : Prop where
  opened_before : ∀ us, us <+: ts → tally .closing us ≤ tally .opening us
  all_closed : tally .opening ts = tally .closing ts

theorem forall_prefix_cons {P : List (Token α) → Prop} {t : Token α} {ts : List (Token α)} :
    (∀ us, us <+: t :: ts → P us) ↔ P [] ∧ ∀ us, us <+: ts → P (t :: us) := by
  constructor
  · intro h
    exact ⟨h [] List.nil_prefix, fun us hus => h _ (List.cons_prefix_cons.mpr ⟨rfl, hus⟩)⟩
  · rintro ⟨hnil, hcons⟩ us hus
    rcases List.prefix_cons_iff.mp hus with rfl | ⟨vs, rfl, hvs⟩
    · exact hnil
    · exact hcons vs hvs

theorem depth?_eq_some_iff {d e : Nat} {ts : List (Token α)} :
    depth? d ts = some e ↔
      (∀ us, us <+: ts → tally .closing us ≤ d + tally .opening us) ∧
        d + tally .opening ts = e + tally .closing ts := by
  induction ts generalizing d with
  | nil => simp [depth?]
  | cons t ts ih =>
    rw [forall_prefix_cons]
    cases t with
    | number x | name s | operator op =>
      rw [depth?, ih]
      · simp [tally_cons, Token.role]
      all_goals simp
    | opening =>
      rw [depth?, ih]
      simp [tally_cons, Token.role, Nat.add_assoc, Nat.add_comm 1]
    | closing =>
      cases d with
      | zero =>
        refine iff_of_false (by simp [depth?]) ?_
        -- the parenthesis alone is a beginning that closes too much
        rintro ⟨⟨_, hprefix⟩, _⟩
        have hfirst := hprefix [] List.nil_prefix
        simp [tally_cons, Token.role] at hfirst
      | succ d =>
        have hprefix : ∀ us : List (Token α),
            tally .closing us + 1 ≤ d + 1 + tally .opening us ↔ tally .closing us ≤ d + tally .opening us := by
          intro us
          omega
        have htotal : d + 1 + tally .opening ts = e + (tally .closing ts + 1) ↔
            d + tally .opening ts = e + tally .closing ts := by
          omega
        simp [depth?, ih, tally_cons, Token.role, hprefix, htotal]

theorem balanced_iff_paired {ts : List (Token α)} : Balanced ts ↔ Paired ts := by
  rw [Balanced, depth?_eq_some_iff]
  simp only [Nat.zero_add]
  exact ⟨fun h => ⟨h.1, h.2⟩, fun h => ⟨h.1, h.2⟩⟩

end DeskCalc
