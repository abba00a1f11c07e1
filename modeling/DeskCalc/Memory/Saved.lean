import DeskCalc.Memory.Basic

/-! # Saved memories

A memory is saved as a tree of records, lists, texts and numbers, in which every part goes by its name.

* `Tree`: such trees. The names in a record differ.
* `Memory.save`: the tree of a memory. Numbers that are not finite have no place in it and are left out as `null`.
* `Memory.load?`: the memory of a tree, which may not hold such numbers either. A record may be given as the list of
  its fields in order; fields that are not asked for are passed over.
-/

namespace DeskCalc
open DeskCalc.Number
set_option autoImplicit false

inductive Tree (α : Type) where
  | null
  | bool (b : Bool)
  | number (x : α)
  | text (s : String)
  | list (items : List (Tree α))
  | record (fields : List (String × Tree α))

namespace Tree

variable {α : Type}

/-! ## Taking trees apart -/

/-- A numeral beyond the range of the numbers is read as infinite, and so is none. -/
def number? [Scalar α] : Tree α → Option α
  | number x => if Scalar.isFinite x then some x else none
  | _ => none

def text? : Tree α → Option String
  | text s => some s
  | _ => none

def list? : Tree α → Option (List (Tree α))
  | list items => some items
  | _ => none

/-- The fields of these names. -/
def fields? (names : List String) : Tree α → Option (List (Tree α))
  | record fields => names.mapM fun name => fields.lookup name
  | list items => if items.length = names.length then some items else none
  | _ => none

/-- A record whose names are data. -/
def table? {β : Type} (value? : Tree α → Option β) : Tree α → Option (Table β)
  | record fields => Table.ofList <$> fields.mapM fun p => (p.1, ·) <$> value? p.2
  | _ => none

/-- A choice without data: its name, by itself or as the only field of a record. -/
def choice? : Tree α → Option String
  | text s => some s
  | record [(s, null)] => some s
  | _ => none

/-! ## Putting trees together -/

def ofNumber [Scalar α] (x : α) : Tree α := if Scalar.isFinite x then number x else null

def ofTable {β : Type} (tree : β → Tree α) (t : Table β) : Tree α :=
  record (t.entries.map fun p => (p.1, tree p.2))

end Tree

/-! ## Operators and tokens -/

def Operator.savedName : Operator → String
  | add => "Add"
  | subtract => "Sub"
  | multiply => "Mul"
  | divide => "Div"

def Operator.ofSavedName? (s : String) : Option Operator :=
  [add, subtract, multiply, divide].find? fun op => op.savedName == s

namespace Token

variable {α : Type}

def save [Scalar α] : Token α → Tree α
  | number x => .record [("Num", .ofNumber x)]
  | name s => .record [("Var", .text s)]
  | operator op => .record [("Op", .text op.savedName)]
  | opening => .record [("Paren", .text "Open")]
  | closing => .record [("Paren", .text "Close")]

def load? [Scalar α] : Tree α → Option (Token α)
  | .record [(tag, tree)] =>
    if tag = "Num" then number <$> tree.number?
    else if tag = "Var" then name <$> tree.text?
    else if tag = "Op" then tree.choice?.bind fun s => operator <$> Operator.ofSavedName? s
    else if tag = "Paren" then tree.choice?.bind fun s =>
      if s = "Open" then some opening else if s = "Close" then some closing else none
    else none
  | _ => none

end Token

/-! ## Formulas and memories -/

namespace Formula

variable {α : Type}

def save [Scalar α] (f : Formula α) : Tree α :=
  .record [("name", .text f.name), ("params", .list (f.params.map .text)), ("body", .list (f.body.map Token.save))]

def load? [Scalar α] (tree : Tree α) : Option (Formula α) :=
  match tree.fields? ["name", "params", "body"] with
  | some [name, params, body] => do
    let name ← name.text?
    let params ← (← params.list?).mapM Tree.text?
    let body ← (← body.list?).mapM Token.load?
    pure ⟨name, params, body⟩
  | _ => none

end Formula

namespace Memory

variable {α : Type}

def save [Scalar α] (m : Memory α) : Tree α :=
  .record [("vars", .record [("bindings", .ofTable .ofNumber m.values)]),
    ("funcs", .record [("defs", .ofTable Formula.save m.functions)])]

def load? [Scalar α] (tree : Tree α) : Option (Memory α) :=
  match tree.fields? ["vars", "funcs"] with
  | some [values, functions] =>
    match values.fields? ["bindings"], functions.fields? ["defs"] with
    | some [bindings], some [formulas] => do
      let values ← bindings.table? Tree.number?
      let functions ← formulas.table? Formula.load?
      pure ⟨values, functions⟩
    | _, _ => none
  | _ => none

end Memory

end DeskCalc
