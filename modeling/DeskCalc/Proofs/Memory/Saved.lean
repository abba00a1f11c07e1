import DeskCalc.Memory.Saved
import DeskCalc.Proofs.Command.WellFormed
import DeskCalc.Table.Lemmas

/-! # Saving a memory and loading it

A memory that has been saved is loaded as it was, unless a number in it is not finite; then it cannot be loaded.

* `Restores`: loading what has been saved gives it back if it is fit for that, and otherwise nothing.
* `Restores.list`, `Restores.table`: lists and tables are restored as their members are.
* `restores_number`, `restores_operator`, `restores_token`, `restores_formula`, `Memory.restores`: each part of a memory,
  and the whole of it.
* `Memory.EveryNumber`: the numbers in a memory, in its variables and in its functions.
* `Memory.load?_save_iff`: the memories of the two number types.
-/

namespace DeskCalc
open DeskCalc.Number
set_option autoImplicit false

/-! ## Restoring -/

def Restores {β τ : Type} (save : β → τ) (load? : τ → Option β) (fit : β → Prop) : Prop :=
  ∀ x y, load? (save x) = some y ↔ fit x ∧ x = y

section

variable {β τ : Type} {save : β → τ} {load? : τ → Option β} {fit : β → Prop}

theorem Restores.eq_some_iff (h : Restores save load? fit) (x : β) : load? (save x) = some x ↔ fit x := by
  rw [h x x, and_iff_left rfl]

theorem Restores.eq_none_iff (h : Restores save load? fit) (x : β) : load? (save x) = none ↔ ¬fit x := by
  rw [Option.eq_none_iff_forall_ne_some]
  constructor
  · exact fun hnone hfit => hnone x ((h.eq_some_iff x).mpr hfit)
  · exact fun hunfit y hy => hunfit ((h x y).mp hy).1

theorem Restores.list (h : Restores save load? fit) :
    Restores (List.map save) (List.mapM load?) fun xs => ∀ x ∈ xs, fit x := by
  intro xs
  induction xs with
  | nil => simp
  | cons x xs ih =>
    intro ys
    simp only [List.map_cons, List.mapM_cons, Option.bind_eq_bind, Option.bind_eq_some_iff, Option.pure_def,
      Option.some.injEq, h x, ih, List.forall_mem_cons]
    constructor
    · rintro ⟨_, ⟨hx, rfl⟩, _, ⟨hxs, rfl⟩, rfl⟩
      exact ⟨⟨hx, hxs⟩, rfl⟩
    · rintro ⟨⟨hx, hxs⟩, rfl⟩
      exact ⟨x, ⟨hx, rfl⟩, xs, ⟨hxs, rfl⟩, rfl⟩

end

variable {α : Type}

/-- The names of a table are saved as they are. -/
theorem Restores.table {β : Type} {save : β → Tree α} {load? : Tree α → Option β} {fit : β → Prop}
    (h : Restores save load? fit) :
    Restores (Tree.ofTable save) (Tree.table? load?) fun t => ∀ x ∈ t.values, fit x := by
  have hentry : Restores (fun p : String × β => (p.1, save p.2)) (fun p => (p.1, ·) <$> load? p.2)
      fun p => fit p.2 := by
    rintro ⟨name, x⟩ ⟨name', y⟩
    simp only [Option.map_eq_map, Option.map_eq_some_iff, h x, Prod.mk.injEq]
    constructor
    · rintro ⟨_, ⟨hx, rfl⟩, rfl, rfl⟩
      exact ⟨hx, rfl, rfl⟩
    · rintro ⟨hx, rfl, rfl⟩
      exact ⟨x, ⟨hx, rfl⟩, rfl, rfl⟩
  intro t u
  rw [Tree.ofTable, Tree.table?, Option.map_eq_map, Option.map_eq_some_iff]
  simp only [hentry.list t.entries, Table.values, List.forall_mem_map]
  constructor
  -- the names still ascend, so that no entry replaces another
  · rintro ⟨_, ⟨hfit, rfl⟩, rfl⟩
    exact ⟨hfit, (Table.ofList_of_perm (.refl _)).symm⟩
  · rintro ⟨hfit, rfl⟩
    exact ⟨t.entries, ⟨hfit, rfl⟩, Table.ofList_of_perm (.refl _)⟩

/-! ## Tokens -/

theorem restores_text : Restores (Tree.text : String → Tree α) Tree.text? fun _ => True := by
  intro s t
  simp [Tree.text?]

theorem restores_operator : Restores Operator.savedName Operator.ofSavedName? fun _ => True := by
  intro op op'
  have hself : Operator.ofSavedName? op.savedName = some op := by cases op <;> decide +kernel
  rw [hself, Option.some.injEq, true_and]

variable [Scalar α]

theorem restores_number : Restores (Tree.ofNumber : α → Tree α) Tree.number? fun x => Scalar.isFinite x = true := by
  intro x y
  rw [Tree.ofNumber]
  by_cases hx : Scalar.isFinite x = true
  · simp [Tree.number?, hx]
  · simp [Tree.number?, hx]

theorem restores_token :
    Restores (Token.save : Token α → Tree α) Token.load? fun t => ∀ x, t = .number x → Scalar.isFinite x = true := by
  intro t u
  cases t with
  | number x => simp [Token.save, Token.load?, restores_number x]
  | name s => simp [Token.save, Token.load?, restores_text s]
  | operator op => simp [Token.save, Token.load?, Tree.choice?, restores_operator op]
  | opening => simp [Token.save, Token.load?, Tree.choice?]
  | closing => simp [Token.save, Token.load?, Tree.choice?]

/-! ## Formulas and memories -/

omit [Scalar α] in
/-- Every field is found under its name. -/
theorem fields?_record {fields : List (String × Tree α)} (h : (fields.map Prod.fst).Nodup) :
    (Tree.record fields).fields? (fields.map Prod.fst) = some (fields.map Prod.snd) := by
  have hpart : ∀ part ⊆ fields,
      (part.map Prod.fst).mapM (fun name => fields.lookup name) = some (part.map Prod.snd) := by
    intro part
    induction part with
    | nil => exact fun _ => rfl
    | cons p part ih =>
      intro hsubset
      obtain ⟨hp, hpart⟩ := List.cons_subset.mp hsubset
      have hlookup : fields.lookup p.1 = some p.2 := (lookup_eq_some_iff_mem h).mpr hp
      rw [List.map_cons, List.mapM_cons, hlookup, ih hpart]
      rfl
  exact hpart fields (List.Subset.refl _)

theorem restores_formula :
    Restores (Formula.save : Formula α → Tree α) Formula.load? (Formula.EveryNumber fun x => Scalar.isFinite x = true)
    := by
  rintro ⟨name, params, body⟩ ⟨name', params', body'⟩
  have hfields : (Formula.save ⟨name, params, body⟩ : Tree α).fields? ["name", "params", "body"] = some _ :=
    fields?_record (by simp)
  rw [Formula.load?, hfields]
  simp only [List.map_cons, List.map_nil, Tree.list?, Option.bind_eq_bind, Option.bind_some, Option.bind_eq_some_iff,
    Option.pure_def, Option.some.injEq, restores_text name, restores_text.list params, restores_token.list body,
    Formula.mk.injEq, Formula.EveryNumber]
  constructor
  · rintro ⟨_, ⟨_, rfl⟩, _, ⟨_, rfl⟩, _, ⟨hbody, rfl⟩, rfl, rfl, rfl⟩
    exact ⟨fun x hx => hbody _ hx x rfl, rfl, rfl, rfl⟩
  · rintro ⟨hbody, rfl, rfl, rfl⟩
    refine ⟨name, ⟨trivial, rfl⟩, params, ⟨fun _ _ => trivial, rfl⟩, body, ⟨?_, rfl⟩, rfl, rfl, rfl⟩
    rintro _ ht x rfl
    exact hbody x ht

namespace Memory

/-- The values of the variables and the numbers in the functions. -/
def EveryNumber (kind : α → Prop) (m : Memory α) : Prop :=
  (∀ x ∈ m.values.values, kind x) ∧ ∀ f ∈ m.functions.values, f.EveryNumber kind

theorem restores :
    Restores (save : Memory α → Tree α) load? (EveryNumber fun x => Scalar.isFinite x = true) := by
  rintro ⟨values, functions⟩ ⟨values', functions'⟩
  have hfields : (save ⟨values, functions⟩ : Tree α).fields? ["vars", "funcs"] = some _ := fields?_record (by simp)
  have hvalues : (Tree.record [("bindings", Tree.ofTable .ofNumber values)]).fields? ["bindings"] = some _ :=
    fields?_record (by simp)
  have hfunctions : (Tree.record [("defs", Tree.ofTable Formula.save functions)]).fields? ["defs"] = some _ :=
    fields?_record (by simp)
  rw [load?, hfields]
  simp only [List.map_cons, List.map_nil, hvalues, hfunctions, Option.bind_eq_bind, Option.bind_eq_some_iff,
    Option.pure_def, Option.some.injEq, restores_number.table values, restores_formula.table functions, Memory.mk.injEq,
    EveryNumber]
  constructor
  · rintro ⟨_, ⟨hvalues, rfl⟩, _, ⟨hfunctions, rfl⟩, rfl, rfl⟩
    exact ⟨⟨hvalues, hfunctions⟩, rfl, rfl⟩
  · rintro ⟨⟨hvalues, hfunctions⟩, rfl, rfl⟩
    exact ⟨values, ⟨hvalues, rfl⟩, functions, ⟨hfunctions, rfl⟩, rfl, rfl⟩

/-- A memory is restored if and only if all its numbers are finite, and otherwise nothing is loaded. -/
theorem load?_save_iff :
    (∀ m : Memory Float, (load? m.save = some m ↔ m.EveryNumber fun x => x.isFinite = true) ∧
      (load? m.save = none ↔ ¬m.EveryNumber fun x => x.isFinite = true)) ∧
    ∀ m : Memory Float32, (load? m.save = some m ↔ m.EveryNumber fun x => x.isFinite = true) ∧
      (load? m.save = none ↔ ¬m.EveryNumber fun x => x.isFinite = true) := by
  simp only [← isFinite_double, ← isFinite_single]
  exact ⟨fun m => ⟨restores.eq_some_iff m, restores.eq_none_iff m⟩,
    fun m => ⟨restores.eq_some_iff m, restores.eq_none_iff m⟩⟩

/-- No line makes such a memory. -/
example : let m : Memory Float := ⟨∅, .ofList [("g", ⟨"f", ["a", "a"], [.number (-0.0), .name "def"]⟩)]⟩
    load? m.save = some m ∧ load? (m.assign "" (1 / -0.0)).save = none := by
  decide +kernel

end Memory

end DeskCalc
