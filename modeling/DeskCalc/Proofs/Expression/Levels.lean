import DeskCalc.Proofs.Expression.Acceptance
import DeskCalc.Proofs.Expression.Tally
import DeskCalc.Token.Lexer
import Mathlib

/-! # Levels of pending operators

What is pending lies on levels, one for each open group and one below all of them. An operator is only put on top of
operators that bind less tightly, since all others of its level are applied before, so that a level never holds more
operators than there are ranks. This is true of every row that is read without a fault, whether or not it makes sense.

* `levels`: the pending operators, level by level.
* `Steep`: every pending operator binds tighter than what is right below it. `Steep.levels`, `Steep.length_le`: what this
  means for the levels and for the height of the stack.
* `Evaluation.Unwinds.steep`, `Evaluation.Steps.steep`, `Evaluation.steep_of_run`: it is never lost.
* `Evaluation.unwind_above_group`: an operator reaches no group.
* `Evaluation.levels_of_run`: what is pending behind the tokens that have been read.
-/

namespace DeskCalc
open DeskCalc.Number
set_option autoImplicit false

/-! ## Levels -/

/-- The operators above the innermost open group first, and on each level the topmost operator first. -/
def levels : List Pending → List (List Operator)
  | [] => [[]]
  | .group :: ps => [] :: levels ps
  | .operation op :: ps => (levels ps).modifyHead (op :: ·)

/-- Every operator binds tighter than those below it. -/
def Tightens (level : List Operator) : Prop := level.Pairwise fun upper lower => lower.rank < upper.rank

theorem Operator.rank_le_two (op : Operator) : op.rank ≤ 2 := by
  cases op <;> decide

theorem Tightens.length_le {level : List Operator} (h : Tightens level) : level.length ≤ 2 := by
  match level with
  | [] | [_] | [_, _] => simp
  | a :: b :: c :: rest =>
    obtain ⟨habove, htail⟩ := List.pairwise_cons.mp h
    have hab : b.rank < a.rank := habove b (.head _)
    have hbc : c.rank < b.rank := (List.pairwise_cons.mp htail).1 c (.head _)
    have ha := a.rank_le_two
    have hc := c.rank_pos
    omega

open Evaluation

theorem length_levels (ps : List Pending) : (levels ps).length = groups ps + 1 := by
  induction ps with
  | nil => rfl
  | cons p ps ih =>
    cases p with
    | group => simp [levels, ih]
    | operation op => simp [levels, ih]

theorem exists_levels_eq (ps : List Pending) : ∃ top lower, levels ps = top :: lower :=
  List.exists_cons_of_length_pos (by rw [length_levels]; omega)

theorem levels_operation {op : Operator} {ps : List Pending} {top : List Operator} {lower : List (List Operator)}
    (h : levels ps = top :: lower) : levels (.operation op :: ps) = (op :: top) :: lower := by
  rw [levels, h, List.modifyHead_cons]

/-- Everything pending is an open group or on a level. -/
theorem length_eq_sum_levels (ps : List Pending) : ps.length = groups ps + ((levels ps).map List.length).sum := by
  induction ps with
  | nil => rfl
  | cons p ps ih =>
    cases p with
    | group =>
      rw [List.length_cons, ih, groups_group, levels, List.map_cons, List.sum_cons, List.length_nil]
      omega
    | operation op =>
      obtain ⟨top, lower, hps⟩ := exists_levels_eq ps
      rw [List.length_cons, ih, groups_operation, levels_operation hps, hps]
      simp only [List.map_cons, List.sum_cons, List.length_cons]
      omega

/-! ## Steep stacks -/

inductive Steep : List Pending → Prop where
  | bottom : Steep []
  | group {ps : List Pending} (h : Steep ps) : Steep (.group :: ps)
  | operation {op : Operator} {ps : List Pending} (hop : Looser op.rank ps) (h : Steep ps) : Steep (.operation op :: ps)

/-- What binds less tightly than a rank on top does so on all of the level. -/
theorem Steep.rank_lt {ps : List Pending} (h : Steep ps) {rank : Nat} (hps : Looser rank ps) {top : List Operator}
    {lower : List (List Operator)} (hlevels : levels ps = top :: lower) : ∀ op ∈ top, op.rank < rank := by
  induction h generalizing rank top lower with
  | bottom =>
    cases hlevels
    exact fun _ h => nomatch h
  | group _ _ =>
    cases hlevels
    exact fun _ h => nomatch h
  | @operation op ps hop _ ih =>
    obtain ⟨rest, others, hrest⟩ := exists_levels_eq ps
    rw [levels_operation hrest] at hlevels
    cases hlevels
    have hrank : op.rank < rank := hps (.operation op) rfl
    intro other hother
    rcases List.mem_cons.mp hother with rfl | hmem
    · exact hrank
    · exact Nat.lt_trans (ih hop hrest other hmem) hrank

theorem Steep.levels {ps : List Pending} (h : Steep ps) : ∀ level ∈ levels ps, Tightens level := by
  induction h with
  | bottom => simp [DeskCalc.levels, Tightens]
  | group _ ih => exact List.forall_mem_cons.mpr ⟨.nil, ih⟩
  | @operation op ps hop hps ih =>
    obtain ⟨top, lower, hlevels⟩ := exists_levels_eq ps
    rw [hlevels, List.forall_mem_cons] at ih
    rw [levels_operation hlevels, List.forall_mem_cons]
    exact ⟨List.pairwise_cons.mpr ⟨hps.rank_lt hop hlevels, ih.1⟩, ih.2⟩

theorem Steep.length_le {ps : List Pending} (h : Steep ps) : ps.length ≤ 3 * groups ps + 2 := by
  have hsum : ((DeskCalc.levels ps).map List.length).sum ≤ ((DeskCalc.levels ps).map List.length).length • 2 := by
    apply List.sum_le_card_nsmul
    intro n hn
    obtain ⟨level, hlevel, rfl⟩ := List.mem_map.mp hn
    exact (h.levels level hlevel).length_le
  rw [List.length_map, length_levels, Nat.nsmul_eq_mul] at hsum
  have hlength := length_eq_sum_levels ps
  omega

/-! ## Runs -/

variable {α : Type} [Scalar α]

namespace Evaluation

/-- What is left is steep, and unless a group has been closed everything as tight as the rank is gone from its top. -/
theorem Unwinds.steep {rank : Nat} {ps : List Pending} {vs : List α} {closed : Bool} {s : Stacks α}
    (h : Unwinds rank ps vs closed s) (hps : Steep ps) : Steep s.pending ∧ (closed = false → Looser rank s.pending) := by
  induction h with
  | bottom => exact ⟨hps, fun _ p hp => nomatch hp⟩
  | looser hlt => exact ⟨hps, fun _ => looser_cons hlt⟩
  | group =>
    cases hps with
    | group hps => exact ⟨hps, fun h => nomatch h⟩
  | operation _ _ _ ih =>
    cases hps with
    | operation _ hps => exact ih hps

theorem Steps.steep {scope : Scope α} {s s' : Stacks α} {t : Token α} (h : Steps scope s t s')
    (hs : Steep s.pending) : Steep s'.pending := by
  cases h with
  | number => exact hs
  | name => exact hs
  | opening => exact hs.group
  | closing hu => exact (hu.steep hs).1
  | operator hu =>
    obtain ⟨hsteep, hlooser⟩ := hu.steep hs
    exact hsteep.operation (hlooser rfl)

theorem steep_of_run {scope : Scope α} {s s' : Stacks α} {ts : List (Token α)}
    (h : (run scope s ts).outcome = .ok s') (hs : Steep s.pending) : Steep s'.pending := by
  induction ts generalizing s with
  | nil =>
    cases h
    exact hs
  | cons t ts ih =>
    rw [run_cons] at h
    obtain ⟨u, hu, hrest⟩ := Traced.outcome_bind_eq_ok.mp h
    exact ih hrest ((step_eq_ok_iff.mp hu).steep hs)

/-- An operator unwinds what is above a group as if the stack ended there, with or without success. -/
theorem unwind_above_group (op : Operator) (above below : List Pending) (vs : List α) :
    unwind op.rank (above ++ .group :: below) vs =
      unwind op.rank above vs >>= fun u => pure (false, ⟨u.2.pending ++ .group :: below, u.2.values⟩) := by
  have hgroup : ∀ ps : List Pending, Looser op.rank (.group :: ps) := fun ps => looser_cons op.rank_pos
  induction above generalizing vs with
  | nil => rw [List.nil_append, unwind_of_looser (hgroup below)]; rfl
  | cons p above ih =>
    by_cases hp : p.rank < op.rank
    · rw [List.cons_append, unwind_of_looser (looser_cons hp), unwind_of_looser (looser_cons hp)]
      rfl
    · cases p with
      | group => exact absurd op.rank_pos hp
      | operation other =>
        have hle : op.rank ≤ other.rank := Nat.le_of_not_lt hp
        rw [List.cons_append, unwind_operation_of_le hle, unwind_operation_of_le hle, bind_assoc]
        congr 1
        funext us
        exact ih us

/-- Behind the tokens that have been read, the ranks grow on each level, which holds two operators at most. There is a level
for each group that has been opened and not been closed, and one more, which bounds what is pending. An operator
discards no group: it does the same above a group and what lies below it as it does where nothing lies below. -/
theorem levels_of_run (scope : Scope α) (ts : List (Token α)) (s : Stacks α)
    (h : (run scope .empty ts).outcome = .ok s) :
    (∀ level ∈ levels s.pending, Tightens level ∧ level.length ≤ 2) ∧
      (levels s.pending).length = groups s.pending + 1 ∧
      ((∀ us, us <+: ts → tally .closing us ≤ tally .opening us) ∧
        tally .opening ts = groups s.pending + tally .closing ts) ∧
      s.pending.length ≤ 3 * groups s.pending + 2 ∧
      ∀ (op : Operator) (above below : List Pending) (vs : List α),
        unwind op.rank (above ++ .group :: below) vs =
          unwind op.rank above vs >>= fun u => pure (false, ⟨u.2.pending ++ .group :: below, u.2.values⟩) := by
  have hsteep : Steep s.pending := steep_of_run h .bottom
  have hdepth : depth? 0 ts = some (groups s.pending) := depth?_of_run h
  obtain ⟨hbefore, htotal⟩ := depth?_eq_some_iff.mp hdepth
  simp only [Nat.zero_add] at hbefore htotal
  refine ⟨fun level hlevel => ?_, length_levels s.pending, ⟨hbefore, htotal⟩, hsteep.length_le, unwind_above_group⟩
  have htightens := hsteep.levels level hlevel
  exact ⟨htightens, htightens.length_le⟩

/-- Two groups are open, and each of the three levels holds as much as it can. -/
theorem levels_of_run_full :
    ∃ s : Stacks Float,
      (run .empty .empty (Token.ofText "1 + 2 * (3 - (4) / (5 + 6 *" : List (Token Float))).outcome = .ok s ∧
      levels s.pending = [[.multiply, .add], [.divide, .subtract], [.multiply, .add]] ∧
      (∀ level ∈ levels s.pending, Tightens level ∧ level.length ≤ 2) ∧
      s.pending.length = 3 * groups s.pending + 2 := by
  refine ⟨⟨[.operation .multiply, .operation .add, .group, .operation .divide, .operation .subtract, .group,
    .operation .multiply, .operation .add], [6, 5, 4, 3, 2, 1]⟩, ?_⟩
  have h : (run .empty .empty (Token.ofText "1 + 2 * (3 - (4) / (5 + 6 *" : List (Token Float))).outcome =
      .ok ⟨[.operation .multiply, .operation .add, .group, .operation .divide, .operation .subtract, .group,
        .operation .multiply, .operation .add], [6, 5, 4, 3, 2, 1]⟩ := by
    decide +kernel
  exact ⟨h, rfl, (levels_of_run .empty _ _ h).1, rfl⟩

end Evaluation

end DeskCalc
