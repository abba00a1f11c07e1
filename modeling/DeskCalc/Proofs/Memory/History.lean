import DeskCalc.Proofs.Memory.Parts

/-! # The memory as its history

What stands under a name after a run of lines is what was written there last, and it has not changed since.

* `Latest`: the value written last, of values written at the places of a run, or else the one from before the run.
* `Memory.Performed`: the line at a place of a run is a command, and succeeds.
* `Memory.Assigned`, `Memory.Defined`: the value that a place writes under a name.
* `Memory.latest_afterLines`: the memory after a run holds the latest values, and no name is ever lost.
-/

namespace DeskCalc
open DeskCalc.Number DeskCalc.Text
set_option autoImplicit false

/-! ## The latest of some values -/

/-- Of the values that places write, the one from the last place; where no place writes, the one from before. -/
inductive Latest {β : Type} (writes : Nat → β → Prop) (before : Option β) : Option β → Prop where
  | kept (h : ∀ i x, ¬writes i x) : Latest writes before before
  | written (i : Nat) (x : β) (h : writes i x) (last : ∀ j y, writes j y → j ≤ i) : Latest writes before (some x)

/-- The first place comes before the others. -/
theorem Latest.cons {β : Type} {writes : Nat → β → Prop} {before after result : Option β}
    (hfirst : (∃ x, writes 0 x ∧ after = some x) ∨ (∀ x, ¬writes 0 x) ∧ after = before)
    (h : Latest (fun i => writes (i + 1)) after result) : Latest writes before result := by
  cases h with
  | kept hnone =>
    rcases hfirst with ⟨x, hx, rfl⟩ | ⟨hx, rfl⟩
    · refine .written 0 x hx fun j y hy => ?_
      cases j with
      | zero => exact Nat.le_refl 0
      | succ j => exact absurd hy (hnone j y)
    · refine .kept fun i y hy => ?_
      cases i with
      | zero => exact hx y hy
      | succ i => exact hnone i y hy
  | written i x hx hlast =>
    refine .written (i + 1) x hx fun j y hy => ?_
    cases j with
    | zero => exact Nat.zero_le _
    | succ j => exact Nat.succ_le_succ (hlast j y hy)

namespace Memory

variable {α : Type} [Scalar α]

/-! ## What the lines of a run write -/

/-- The line at a place of a run is this command, and it succeeds. -/
def Performed (m : Memory α) (lines : List String) (i : Nat) (command : Command α) : Prop :=
  ∃ line, lines[i]? = some line ∧ Command.read line = .ok (some command) ∧
    ∃ answer, ((m.afterLines (lines.take i)).enter line).outcome = .ok answer

/-- An assignment writes the value that its expression has with the variables just before it. -/
def Assigned (m : Memory α) (lines : List String) (name : String) (i : Nat) (x : α) : Prop :=
  ∃ tokens, m.Performed lines i (.assign name tokens) ∧
    (DeskCalc.evaluate (.ofShared (m.afterLines (lines.take i)).values) tokens).outcome = .ok x

/-- A definition writes its formula under the name in it. -/
def Defined (m : Memory α) (lines : List String) (name : String) (i : Nat) (f : Formula α) : Prop :=
  f.name = name ∧ m.Performed lines i (.define f)

theorem performed_zero_iff {m : Memory α} {line : String} {lines : List String} {command : Command α} :
    m.Performed (line :: lines) 0 command ↔
      Command.read line = .ok (some command) ∧ ∃ answer, (m.enter line).outcome = .ok answer := by
  constructor
  · rintro ⟨_, hline, h⟩
    cases hline
    exact h
  · exact fun h => ⟨line, rfl, h⟩

theorem exists_outcome_assign_iff {m : Memory α} {line name : String} {tokens : List (Token α)}
    (hread : Command.read line = .ok (some (.assign name tokens))) :
    (∃ answer, (m.enter line).outcome = .ok answer) ↔
      ∃ x, (DeskCalc.evaluate (.ofShared m.values) tokens).outcome = .ok x := by
  rw [enter_of_command m hread, run]
  simp only [Traced.outcome_bind_eq_ok]
  constructor
  · rintro ⟨_, x, hx, _⟩
    exact ⟨x, hx⟩
  · rintro ⟨x, hx⟩
    exact ⟨_, x, hx, _, rfl, rfl⟩

theorem exists_outcome_define {m : Memory α} {line : String} {f : Formula α}
    (hread : Command.read line = .ok (some (.define f))) : ∃ answer, (m.enter line).outcome = .ok answer := by
  rw [enter_of_command m hread]
  exact ⟨_, rfl⟩

/-- An assignment that succeeds has a value. -/
theorem exists_assigned_iff {m : Memory α} {lines : List String} {name : String} {i : Nat} :
    (∃ x, m.Assigned lines name i x) ↔ ∃ tokens, m.Performed lines i (.assign name tokens) := by
  constructor
  · rintro ⟨_, tokens, h, _⟩
    exact ⟨tokens, h⟩
  · rintro ⟨tokens, line, hline, hread, hanswer⟩
    obtain ⟨x, hx⟩ := (exists_outcome_assign_iff hread).mp hanswer
    exact ⟨x, tokens, ⟨line, hline, hread, hanswer⟩, hx⟩

/-! ## One line -/

theorem assigned_zero (m : Memory α) (line : String) (lines : List String) (name : String) :
    (∃ x, m.Assigned (line :: lines) name 0 x ∧ (m.after (m.enter line)).values.get? name = some x) ∨
      (∀ x, ¬m.Assigned (line :: lines) name 0 x) ∧
        (m.after (m.enter line)).values.get? name = m.values.get? name := by
  rw [values_after_enter]
  by_cases h : ∃ x, m.Assigned (line :: lines) name 0 x
  · obtain ⟨x, hx⟩ := h
    refine .inl ⟨x, hx, ?_⟩
    obtain ⟨tokens, hperformed, hvalue⟩ := hx
    have hread := (performed_zero_iff.mp hperformed).1
    have hvalue' : (DeskCalc.evaluate (.ofShared m.values) tokens).outcome = .ok x := hvalue
    simp only [valuesAfter, hread, hvalue', Table.get?_insert_self]
  · refine .inr ⟨fun x hx => h ⟨x, hx⟩, ?_⟩
    unfold valuesAfter
    split
    · next other tokens hread =>
      split
      · next x hx =>
        refine Table.get?_insert_of_ne _ _ fun hname => h ⟨x, tokens, ?_, hx⟩
        subst hname
        exact performed_zero_iff.mpr ⟨hread, (exists_outcome_assign_iff hread).mpr ⟨x, hx⟩⟩
      · rfl
    · rfl

theorem defined_zero (m : Memory α) (line : String) (lines : List String) (name : String) :
    (∃ f, m.Defined (line :: lines) name 0 f ∧ (m.after (m.enter line)).functions.get? name = some f) ∨
      (∀ f, ¬m.Defined (line :: lines) name 0 f) ∧
        (m.after (m.enter line)).functions.get? name = m.functions.get? name := by
  rw [functions_after_enter]
  by_cases h : ∃ f, m.Defined (line :: lines) name 0 f
  · obtain ⟨f, hf⟩ := h
    refine .inl ⟨f, hf, ?_⟩
    obtain ⟨rfl, hperformed⟩ := hf
    have hread := (performed_zero_iff.mp hperformed).1
    simp only [functionsAfter, hread, Table.get?_insert_self]
  · refine .inr ⟨fun f hf => h ⟨f, hf⟩, ?_⟩
    unfold functionsAfter
    split
    · next f hread =>
      refine Table.get?_insert_of_ne _ _ fun hname => h ⟨f, hname.symm, ?_⟩
      exact performed_zero_iff.mpr ⟨hread, exists_outcome_define hread⟩
    · rfl

/-! ## A run -/

theorem latest_values (m : Memory α) (lines : List String) (name : String) :
    Latest (m.Assigned lines name) (m.values.get? name) ((m.afterLines lines).values.get? name) := by
  -- behind its first line, a run is one from the memory which that line leaves
  induction lines generalizing m with
  | nil => exact .kept fun _ _ ⟨_, ⟨_, hline, _⟩, _⟩ => nomatch hline
  | cons line lines ih => exact Latest.cons (assigned_zero m line lines name) (ih (m.after (m.enter line)))

theorem latest_functions (m : Memory α) (lines : List String) (name : String) :
    Latest (m.Defined lines name) (m.functions.get? name) ((m.afterLines lines).functions.get? name) := by
  induction lines generalizing m with
  | nil => exact .kept fun _ _ ⟨_, _, hline, _⟩ => nomatch hline
  | cons line lines ih => exact Latest.cons (defined_zero m line lines name) (ih (m.after (m.enter line)))

theorem names_subset_afterLines (m : Memory α) (lines : List String) :
    m.values.names ⊆ (m.afterLines lines).values.names ∧
      m.functions.names ⊆ (m.afterLines lines).functions.names := by
  induction lines generalizing m with
  | nil => exact ⟨List.Subset.refl _, List.Subset.refl _⟩
  | cons line lines ih =>
    obtain ⟨hvalues, hfunctions⟩ := ih (m.after (m.enter line))
    rw [values_after_enter] at hvalues
    rw [functions_after_enter] at hfunctions
    exact ⟨List.Subset.trans (names_subset_valuesAfter m.values line) hvalues,
      List.Subset.trans (names_subset_functionsAfter m.functions line) hfunctions⟩

/-- After a run every variable and every function is what the run has last made it, and at no place of the run a name is
lost. -/
theorem latest_afterLines (m : Memory α) (lines : List String) :
    (∀ name, Latest (m.Assigned lines name) (m.values.get? name) ((m.afterLines lines).values.get? name)) ∧
      (∀ name, Latest (m.Defined lines name) (m.functions.get? name) ((m.afterLines lines).functions.get? name)) ∧
      (∀ name i, (∃ x, m.Assigned lines name i x) ↔ ∃ tokens, m.Performed lines i (.assign name tokens)) ∧
      ∀ i n, (m.afterLines (lines.take i)).values.names ⊆ (m.afterLines (lines.take (i + n))).values.names ∧
        (m.afterLines (lines.take i)).functions.names ⊆ (m.afterLines (lines.take (i + n))).functions.names := by
  refine ⟨latest_values m lines, latest_functions m lines, fun _ _ => exists_assigned_iff, fun i n => ?_⟩
  rw [List.take_add, afterLines_append]
  exact names_subset_afterLines (m.afterLines (lines.take i)) ((lines.drop i).take n)

end Memory

end DeskCalc
