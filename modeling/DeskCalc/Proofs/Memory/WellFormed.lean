import DeskCalc.Proofs.Command.WellFormed
import DeskCalc.Proofs.Memory.Entering
import DeskCalc.Table.Lemmas

/-! # The memory that lines can leave

Whatever lines are entered into an empty memory, every name in it can be typed, and every function in it is one that a
line can define.

* `Memory.WellFormed`: the invariant.
* `Memory.WellFormed.assign`, `Memory.WellFormed.define`: what the two changes preserve.
* `Memory.WellFormed.after_enter`, `Memory.WellFormed.afterLines`: one line and many lines.
* `Memory.wellFormed_afterLines`: the memories of the two number types.
-/

namespace DeskCalc
open DeskCalc.Number DeskCalc.Text
set_option autoImplicit false

namespace Memory

variable {α : Type}

structure WellFormed (kind : α → Prop) (m : Memory α) : Prop where
  values : ∀ name x, m.values.get? name = some x → Command.FreeName name
  functions : ∀ name f, m.functions.get? name = some f → Command.FreeName name ∧ f.name = name ∧ f.WellFormed kind

theorem wellFormed_empty (kind : α → Prop) : WellFormed kind ∅ where
  values _ _ h := nomatch h
  functions _ _ h := nomatch h

theorem WellFormed.assign {kind : α → Prop} {m : Memory α} (h : m.WellFormed kind) {name : String}
    (hname : Command.FreeName name) (x : α) : (m.assign name x).WellFormed kind where
  values other y hy := by
    rw [Memory.assign, Table.get?_insert] at hy
    split at hy
    · next hother =>
      rw [hother]
      exact hname
    · exact h.values other y hy
  functions := h.functions

theorem WellFormed.define {kind : α → Prop} {m : Memory α} (h : m.WellFormed kind) {f : Formula α}
    (hf : f.WellFormed kind) : (m.define f).WellFormed kind where
  values := h.values
  functions name g hg := by
    rw [Memory.define, Table.get?_insert] at hg
    split at hg
    · next hname =>
      cases hg
      exact ⟨hname ▸ hf.name, hname.symm, hf⟩
    · exact h.functions name g hg

variable [Scalar α]

theorem WellFormed.after_enter {kind : α → Prop} (hread : ReadsLiterals α kind) {m : Memory α}
    (h : m.WellFormed kind) (line : String) : (m.after (m.enter line)).WellFormed kind := by
  rcases after_enter_cases m line with hkept | ⟨name, tokens, x, hcommand, _, hassigned⟩ | ⟨f, hcommand, hdefined⟩
  · rw [hkept]
    exact h
  · rw [hassigned]
    exact h.assign (Command.freeName_of_read hcommand) x
  · rw [hdefined]
    exact h.define ((Command.defines_of_read hcommand).wellFormed hread)

theorem WellFormed.of_lines {kind : α → Prop} (hread : ReadsLiterals α kind) (lines : List String) :
    ((∅ : Memory α).afterLines lines).WellFormed kind :=
  afterLines_induction (fun _ line h => h.after_enter hread line) (wellFormed_empty kind) lines

/-- In every memory that lines leave. -/
theorem wellFormed_afterLines (lines : List String) :
    ((∅ : Memory Float).afterLines lines).WellFormed
        (fun x => x.isNaN = false ∧ Format.double.isNegative x.toBits.toNat = false) ∧
      ((∅ : Memory Float32).afterLines lines).WellFormed
        (fun x => x.isNaN = false ∧ Format.single.isNegative x.toBits.toNat = false) :=
  ⟨.of_lines readsLiterals_double lines, .of_lines readsLiterals_single lines⟩

end Memory

end DeskCalc
