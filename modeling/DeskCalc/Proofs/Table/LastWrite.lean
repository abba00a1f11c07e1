import DeskCalc.Formula
import DeskCalc.Table.Lemmas
import Mathlib.Data.List.Dedup

/-! # The last write wins

A table takes in pairs of a name and a value, all at once or one after the other, and keeps the last value of each name,
in the byte order of the names. It shows nothing else of the pairs it has taken in. Formulas go into a table in the same
way, under their own names.

* `LastPair`: the value in the last pair of a name.
* `Table.Collects`: what is found in a table, how it is listed and counted, in terms of the pairs.
* `Table.Exchanges`: what setting one name hands out, and what it leaves alone.
* `Table.LastWriteWins`: both, for a way of putting items into tables, and that nothing else about the items counts.
* `Table.last_write_wins`: variables and functions.
-/

namespace DeskCalc
open DeskCalc.Number DeskCalc.Text
set_option autoImplicit false

variable {α β γ : Type}

/-! ## Last pairs -/

/-- A pair with this name and value, and behind it none with the name. -/
def LastPair (pairs : List (String × β)) (name : String) (value : β) : Prop :=
  ∃ before behind, pairs = before ++ (name, value) :: behind ∧ name ∉ behind.map Prod.fst

theorem lookup_reverse_eq_some_iff {pairs : List (String × β)} {name : String} {value : β} :
    pairs.reverse.lookup name = some value ↔ LastPair pairs name value := by
  rw [List.lookup_eq_some_iff]
  constructor
  · rintro ⟨behind, before, hpairs, hbehind⟩
    refine ⟨before.reverse, behind.reverse, ?_, ?_⟩
    · rw [← List.reverse_reverse pairs, hpairs, List.reverse_append, List.reverse_cons, List.append_assoc,
        List.singleton_append]
    · intro hmem
      obtain ⟨p, hp, rfl⟩ := List.mem_map.mp hmem
      simpa using hbehind p (List.mem_reverse.mp hp)
  · rintro ⟨before, behind, rfl, hbehind⟩
    refine ⟨behind.reverse, before.reverse, by simp, fun p hp => ?_⟩
    have hne : name ≠ p.1 := fun heq => hbehind (List.mem_map.mpr ⟨p, List.mem_reverse.mp hp, heq.symm⟩)
    simpa using hne

theorem LastPair.mem {pairs : List (String × β)} {name : String} {value : β} (h : LastPair pairs name value) :
    (name, value) ∈ pairs := by
  obtain ⟨before, behind, rfl, _⟩ := h
  exact List.mem_append_right before (.head behind)

namespace Table

/-! ## What a table shows -/

/-- The table is what these pairs come to. A name without a pair is neither found nor contained. -/
structure Collects (t : Table β) (pairs : List (String × β)) : Prop where
  found : ∀ name value, t.get? name = some value ↔ LastPair pairs name value
  contained : ∀ name, t.contains name = true ↔ name ∈ pairs.map Prod.fst
  listed : ∀ name value, (name, value) ∈ t.entries ↔ LastPair pairs name value
  ascending : t.names.Pairwise Precedes
  once : t.names.Nodup
  counted : t.size = (pairs.map Prod.fst).dedup.length

theorem collects_of_get?_eq {t : Table β} {pairs : List (String × β)}
    (h : ∀ name, t.get? name = pairs.reverse.lookup name) : t.Collects pairs := by
  have hfound : ∀ name value, t.get? name = some value ↔ LastPair pairs name value := by
    intro name value
    rw [h, lookup_reverse_eq_some_iff]
  have hcontained : ∀ name, t.contains name = true ↔ name ∈ pairs.map Prod.fst := by
    intro name
    rw [contains, h, List.lookup_isSome_iff]
    simp only [List.mem_reverse, List.mem_map, beq_iff_eq, @eq_comm _ name]
  have hnames : ∀ name, name ∈ t.names ↔ name ∈ pairs.map Prod.fst := by
    intro name
    rw [mem_names_iff, ← hcontained, contains, Option.isSome_iff_exists]
  have hnodup : t.names.Nodup := t.ascending.nodup
  have hperm : t.names.Perm (pairs.map Prod.fst).dedup := by
    refine (List.perm_ext_iff_of_nodup hnodup (List.nodup_dedup _)).mpr fun name => ?_
    rw [hnames, List.mem_dedup]
  constructor
  · exact hfound
  · exact hcontained
  · intro name value
    rw [← get?_eq_some_iff, hfound]
  · exact List.pairwise_map.mpr t.ascending
  · exact hnodup
  · rw [← hperm.length_eq, names, List.length_map, size]

/-! ## Setting one name -/

/-- A name has been set: what it had is handed out, and all other names have what they had. -/
structure Exchanges (t : Table β) (name : String) (value : β) (r : Option β × Table β) : Prop where
  old : r.1 = t.get? name
  new : r.2.get? name = some value
  others : ∀ m, m ≠ name → r.2.get? m = t.get? m

theorem exchanges_exchange (t : Table β) (name : String) (value : β) :
    t.Exchanges name value (t.exchange name value) where
  old := t.exchange_fst name value
  new := t.get?_insert_self name value
  others _ hm := t.get?_insert_of_ne value hm

/-! ## Setting one name after the other -/

/-- The items go one after the other into an empty table. -/
def putAll (put : Table β → γ → Option β × Table β) (items : List γ) : Table β :=
  items.foldl (fun t item => (put t item).2) ∅

/-- Items are put into tables by their names and values, of each name the last one counts, and nothing else does. -/
structure LastWriteWins (put : Table β → γ → Option β × Table β) (entry : γ → String × β) : Prop where
  exchanges : ∀ (t : Table β) (item : γ), t.Exchanges (entry item).1 (entry item).2 (put t item)
  collects : ∀ items : List γ, (putAll put items).Collects (items.map entry)
  determined : ∀ items others : List γ,
    (∀ name value, LastPair (items.map entry) name value ↔ LastPair (others.map entry) name value) →
      putAll put items = putAll put others

variable {put : Table β → γ → Option β × Table β} {entry : γ → String × β}

theorem putAll_eq_ofList (h : ∀ t item, put t item = t.exchange (entry item).1 (entry item).2) (items : List γ) :
    putAll put items = ofList (items.map entry) := by
  rw [← foldl_insert_eq_ofList, List.foldl_map, putAll]
  simp only [h, exchange_snd]

theorem lastWriteWins_of_exchange (h : ∀ t item, put t item = t.exchange (entry item).1 (entry item).2) :
    LastWriteWins put entry := by
  have hcollects : ∀ items, (putAll put items).Collects (items.map entry) := by
    intro items
    rw [putAll_eq_ofList h]
    exact collects_of_get?_eq (get?_ofList (items.map entry))
  constructor
  · intro t item
    rw [h]
    exact t.exchanges_exchange _ _
  · exact hcollects
  · intro items others hlast
    refine eq_of_get?_eq fun name => Option.ext fun value => ?_
    rw [(hcollects items).found, (hcollects others).found]
    exact hlast name value

/-- Formulas are listed by their own names. -/
theorem names_eq_of_collects {t : Table (Formula α)} {fs : List (Formula α)}
    (h : t.Collects (fs.map fun f => (f.name, f))) : t.values.map Formula.name = t.names := by
  rw [values, names, List.map_map]
  refine List.map_congr_left fun p hp => ?_
  obtain ⟨name, f⟩ := p
  obtain ⟨g, _, hg⟩ := List.mem_map.mp ((h.listed name f).mp hp).mem
  cases hg
  rfl

/-- In the tables of variables and of functions the last write of a name wins. A table of variables is the same if it is
made at once, and functions are listed in the order of their names. -/
theorem last_write_wins :
    LastWriteWins (fun (t : Table β) (p : String × β) => t.exchange p.1 p.2) id ∧
      (∀ pairs : List (String × β), ofList pairs = putAll (fun t p => t.exchange p.1 p.2) pairs) ∧
      LastWriteWins (fun (t : Table (Formula α)) f => f.store t) (fun f => (f.name, f)) ∧
      ∀ fs : List (Formula α),
        (putAll (fun t f => f.store t) fs).values.map Formula.name = (putAll (fun t f => f.store t) fs).names := by
  have hvariables : ∀ (t : Table β) (p : String × β), t.exchange p.1 p.2 = t.exchange (id p).1 (id p).2 :=
    fun _ _ => rfl
  have hfunctions : LastWriteWins (fun (t : Table (Formula α)) f => f.store t) (fun f => (f.name, f)) :=
    lastWriteWins_of_exchange fun _ _ => rfl
  refine ⟨lastWriteWins_of_exchange hvariables, fun pairs => ?_, hfunctions, fun fs => ?_⟩
  · rw [putAll_eq_ofList hvariables, List.map_id]
  · exact names_eq_of_collects (hfunctions.collects fs)

/-- The bytes decide, so that `z` comes before `é`. -/
example : (ofList [("é", 1), ("z", 2), ("", 3), ("é", 4)]).entries = [("", 3), ("z", 2), ("é", 4)] := by
  decide +kernel

end Table

end DeskCalc
