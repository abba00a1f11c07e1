import DeskCalc.Text.ByteOrder

/-! # Tables

Values under names, each name once, in the byte order of the names.

* `Table`: the entries and the fact that their names ascend.
* `Table.insert`, `Table.get?`, `Table.contains`, `Table.size`: setting and looking up.
* `Table.exchange`: setting a name and handing out what it had.
* `Table.ofList`: the table of a list of pairs, of which later ones win.
-/

namespace DeskCalc
open DeskCalc.Text
set_option autoImplicit false

/-! ## Entries -/

/-- The names ascend. -/
def Ascending {β : Type} (entries : List (String × β)) : Prop :=
  entries.Pairwise fun p q => Precedes p.1 q.1

def insertEntry {β : Type} (name : String) (value : β) : List (String × β) → List (String × β)
  | [] => [(name, value)]
  | p :: rest =>
    if name = p.1 then (name, value) :: rest
    else if Precedes name p.1 then (name, value) :: p :: rest
    else p :: insertEntry name value rest

/-- What an insertion displaces: the value at the place of the name, if the name stands there. -/
def displaced? {β : Type} (name : String) : List (String × β) → Option β
  | [] => none
  | p :: rest =>
    if name = p.1 then some p.2
    else if Precedes name p.1 then none
    else displaced? name rest

theorem name_of_mem_insertEntry {β : Type} {name : String} {value : β} {p : String × β} :
    ∀ {entries : List (String × β)}, p ∈ insertEntry name value entries → p.1 = name ∨ p ∈ entries
  | [], h => by simp_all [insertEntry]
  | q :: rest, h => by
    unfold insertEntry at h
    split at h
    · rcases List.mem_cons.mp h with rfl | h
      · exact .inl rfl
      · exact .inr (.tail _ h)
    · split at h
      · rcases List.mem_cons.mp h with rfl | h
        · exact .inl rfl
        · exact .inr h
      · rcases List.mem_cons.mp h with rfl | h
        · exact .inr (.head _)
        · exact (name_of_mem_insertEntry h).imp_right (.tail _)

theorem Ascending.insertEntry {β : Type} (name : String) (value : β) :
    ∀ {entries : List (String × β)}, Ascending entries → Ascending (insertEntry name value entries)
  | [], _ => by simp [DeskCalc.insertEntry, Ascending]
  | q :: rest, h => by
    obtain ⟨hq, hrest⟩ := List.pairwise_cons.mp h
    unfold DeskCalc.insertEntry
    split
    · next heq => exact List.pairwise_cons.mpr ⟨fun p hp => heq ▸ hq p hp, hrest⟩
    · next hne =>
      split
      · next hlt =>
        refine List.pairwise_cons.mpr ⟨fun p hp => ?_, h⟩
        rcases List.mem_cons.mp hp with rfl | hp
        · exact hlt
        · exact hlt.trans (hq p hp)
      · next hlt =>
        refine List.pairwise_cons.mpr ⟨fun p hp => ?_, Ascending.insertEntry name value hrest⟩
        rcases name_of_mem_insertEntry hp with hp | hp
        · exact hp ▸ Precedes.of_not hlt hne
        · exact hq p hp

/-! ## Tables -/

structure Table (β : Type) where
  entries : List (String × β)
  ascending : Ascending entries

namespace Table

variable {β : Type}

instance [BEq β] : BEq (Table β) := ⟨fun t u => t.entries == u.entries⟩

instance [DecidableEq β] : DecidableEq (Table β) := fun t u =>
  decidable_of_iff (t.entries = u.entries) ⟨fun h => by cases t; cases u; simp_all, fun h => h ▸ rfl⟩

def empty : Table β := ⟨[], .nil⟩

instance : EmptyCollection (Table β) := ⟨empty⟩

instance : Inhabited (Table β) := ⟨empty⟩

def insert (t : Table β) (name : String) (value : β) : Table β :=
  ⟨insertEntry name value t.entries, t.ascending.insertEntry name value⟩

/-- The value that the name had, and the table in which it has the new one. -/
def exchange (t : Table β) (name : String) (value : β) : Option β × Table β :=
  (displaced? name t.entries, t.insert name value)

def get? (t : Table β) (name : String) : Option β := t.entries.lookup name

def contains (t : Table β) (name : String) : Bool := (t.get? name).isSome

def size (t : Table β) : Nat := t.entries.length

def isEmpty (t : Table β) : Bool := t.entries.isEmpty

def names (t : Table β) : List String := t.entries.map Prod.fst

def values (t : Table β) : List β := t.entries.map Prod.snd

/-- The last pair of a name wins: going from the last pair to the first, a name that is there already stays. -/
def ofList (pairs : List (String × β)) : Table β :=
  pairs.foldr (fun p t => if t.contains p.1 then t else t.insert p.1 p.2) ∅

end Table

end DeskCalc
