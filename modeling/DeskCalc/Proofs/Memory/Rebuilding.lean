import DeskCalc.Proofs.Command.Printing
import DeskCalc.Proofs.Memory.Parts

/-! # Rebuilding the functions

The functions that lines have left are made again by their own texts, entered into an empty memory in any order.

* `Memory.FunctionsDefined`: every function is under its own name, and a line has defined it.
  `Memory.functionsDefined_afterLines`: so it is after any lines.
* `Memory.afterLines_texts`: what the texts of formulas leave.
* `Memory.rebuild_functions`: one formula, and the functions of a whole memory.
-/

namespace DeskCalc
open DeskCalc.Number DeskCalc.Text
set_option autoImplicit false

namespace Memory

variable {α : Type} [Scalar α]

/-! ## Functions of lines -/

def FunctionsDefined (functions : Table (Formula α)) : Prop :=
  ∀ name f, functions.get? name = some f → f.name = name ∧ ∃ line, Command.read line = .ok (some (.define f))

theorem functionsDefined_functionsAfter {functions : Table (Formula α)} (h : FunctionsDefined functions)
    (line : String) : FunctionsDefined (functionsAfter functions line) := by
  intro name f hf
  unfold functionsAfter at hf
  split at hf
  · next g hread =>
    rw [Table.get?_insert] at hf
    split at hf
    · next hname =>
      cases hf
      exact ⟨hname.symm, line, hread⟩
    · exact h name f hf
  · exact h name f hf

theorem functionsDefined_afterLines (lines : List String) :
    FunctionsDefined ((∅ : Memory α).afterLines lines).functions := by
  have hempty : FunctionsDefined (∅ : Memory α).functions := fun _ _ h => nomatch h
  refine afterLines_induction (P := fun m => FunctionsDefined m.functions) (fun m line h => ?_) hempty lines
  rw [functions_after_enter]
  exact functionsDefined_functionsAfter h line

/-! ## Texts of formulas -/

theorem afterLines_texts {fs : List (Formula α)} (h : ∀ f ∈ fs, Command.read f.text = .ok (some (.define f)))
    (m : Memory α) : m.afterLines (fs.map Formula.text) =
      ⟨m.values, (fs.map fun f => (f.name, f)).foldl (fun t p => t.insert p.1 p.2) m.functions⟩ := by
  induction fs generalizing m with
  | nil => rfl
  | cons f fs ih =>
    rw [List.forall_mem_cons] at h
    rw [List.map_cons, afterLines_cons, ih h.2, values_after_enter, functions_after_enter, valuesAfter, functionsAfter,
      h.1]
    rfl

theorem afterLines_texts_of_perm {fs : List (Formula α)} {functions : Table (Formula α)}
    (hnames : ∀ name f, functions.get? name = some f → f.name = name)
    (hread : ∀ f ∈ fs, Command.read f.text = .ok (some (.define f))) (hperm : fs.Perm functions.values) :
    (∅ : Memory α).afterLines (fs.map Formula.text) = ⟨∅, functions⟩ := by
  have hentries : functions.values.map (fun f => (f.name, f)) = functions.entries := by
    rw [Table.values, List.map_map]
    refine (List.map_congr_left fun p hp => ?_).trans (List.map_id _)
    exact congrArg (·, p.2) (hnames p.1 p.2 (Table.get?_eq_some_iff.mpr hp))
  have hpairs : (fs.map fun f => (f.name, f)).Perm functions.entries := hentries ▸ hperm.map _
  have hempty : (∅ : Memory α) = ⟨∅, ∅⟩ := rfl
  rw [hempty, afterLines_texts hread, Table.foldl_insert_eq_ofList, Table.ofList_of_perm hpairs]

/-- What a line defines, its text defines again; and so do the texts of all the functions that lines have left, in
whatever order they are entered. -/
theorem rebuild_functions :
    (∀ (line : String) (f : Formula α), Command.read line = .ok (some (.define f)) →
      f.EveryNumber Token.PrintedAsNumeral → Command.read f.text = .ok (some (.define f))) ∧
    ∀ (lines : List String) (fs : List (Formula α)), fs.Perm ((∅ : Memory α).afterLines lines).functions.values →
      (∀ f ∈ fs, f.EveryNumber Token.PrintedAsNumeral) →
      (∅ : Memory α).afterLines (fs.map Formula.text) = ⟨∅, ((∅ : Memory α).afterLines lines).functions⟩ := by
  refine ⟨fun _ _ => Command.read_text, fun lines fs hperm hprinted => ?_⟩
  have hdefined := functionsDefined_afterLines (α := α) lines
  refine afterLines_texts_of_perm (fun name f hf => (hdefined name f hf).1) (fun f hf => ?_) hperm
  obtain ⟨name, hname⟩ := Table.mem_values_iff.mp (hperm.subset hf)
  obtain ⟨_, line, hread⟩ := hdefined name f hname
  exact Command.read_text hread (hprinted f hf)

def scaleFormula : Formula Float :=
  ⟨"scale", ["a", "b"],
    [.opening, .name "a", .operator .add, .name "b,é", .closing, .operator .multiply, .number 0.5]⟩

def scaleLines : List String := ["x = 2", "def h() = y", "def scale() = 1", "def scale( a,b )=(a+b,é)*.50", "h(1)"]

/-- Two functions, of which the later one by name is defined first. -/
theorem rebuild_functions_scale :
    Command.read "def scale( a,b )=(a+b,é)*.50" = .ok (some (.define scaleFormula)) ∧
      scaleFormula.text = "def scale(a, b) = ( a + b,é ) * 0.5" ∧
      Command.read scaleFormula.text = .ok (some (.define scaleFormula)) ∧
      (∅ : Memory Float).afterLines
        (((∅ : Memory Float).afterLines scaleLines).functions.values.reverse.map Formula.text) =
        ⟨∅, ((∅ : Memory Float).afterLines scaleLines).functions⟩ := by
  have hread : Command.read "def scale( a,b )=(a+b,é)*.50" = .ok (some (.define scaleFormula)) := by decide +kernel
  have htext : scaleFormula.text = "def scale(a, b) = ( a + b,é ) * 0.5" := by decide +kernel
  exact ⟨hread, htext, rebuild_functions.1 _ scaleFormula hread (by decide +kernel),
    rebuild_functions.2 scaleLines _ (List.reverse_perm _) (by decide +kernel)⟩

end Memory

end DeskCalc
