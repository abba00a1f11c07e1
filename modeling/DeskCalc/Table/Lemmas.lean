import DeskCalc.Table.Basic

/-! # Looking up in tables

* `Table.get?_insert`: a name has the value inserted last, other names keep theirs.
* `Table.get?_ofList`: of the pairs of a name the last one counts.
* `Table.eq_of_get?_eq`: a table is determined by what is found in it.
* `Table.exchange_fst`: what is handed out is what was found.
* `Table.insert_comm`: different names can be set in either order.
* `Table.get?_eq_some_iff`: what is found are the entries.
* `Table.ofList_of_perm`: a table is made again from its entries, in whatever order they are given.
-/

namespace DeskCalc
open DeskCalc.Text
set_option autoImplicit false

variable {β : Type}

/-! ## Entries -/

theorem lookup_cons_name (name m : String) (value : β) (entries : List (String × β)) :
    ((name, value) :: entries).lookup m = if m = name then some value else entries.lookup m := by
  rw [List.lookup_cons]
  by_cases h : m = name
  · simp [h]
  · have hb : (m == name) = false := beq_false_of_ne h
    rw [hb, if_neg h]

theorem lookup_insertEntry (name m : String) (value : β) (entries : List (String × β)) :
    (insertEntry name value entries).lookup m = if m = name then some value else entries.lookup m := by
  induction entries with
  | nil => rw [insertEntry, lookup_cons_name]
  | cons p rest ih =>
    obtain ⟨k, x⟩ := p
    unfold insertEntry
    split
    · next hk =>
      have hk' : k = name := hk.symm
      subst hk'
      rw [lookup_cons_name, lookup_cons_name]
      by_cases hm : m = k <;> simp [hm]
    · next hk =>
      split
      · rw [lookup_cons_name]
      · rw [lookup_cons_name, lookup_cons_name, ih]
        by_cases hm : m = name
        · subst hm
          have hne : m ≠ k := hk
          simp [hne]
        · rw [if_neg hm, if_neg hm]

theorem lookup_eq_none_of_precedes {name : String} {entries : List (String × β)}
    (h : ∀ p ∈ entries, Precedes name p.1) : entries.lookup name = none := by
  induction entries with
  | nil => rfl
  | cons p rest ih =>
    obtain ⟨k, x⟩ := p
    have hk : name ≠ k := by
      intro he
      have hp := h (k, x) (.head _)
      exact Precedes.irrefl k (he ▸ hp)
    rw [lookup_cons_name, if_neg hk]
    exact ih fun p hp => h p (.tail _ hp)

/-- Behind the place of a name there is no other place for it. -/
theorem displaced?_eq_lookup {entries : List (String × β)} (h : Ascending entries) (name : String) :
    displaced? name entries = entries.lookup name := by
  induction entries with
  | nil => rfl
  | cons p rest ih =>
    obtain ⟨k, x⟩ := p
    obtain ⟨hk, hrest⟩ := List.pairwise_cons.mp h
    rw [displaced?, lookup_cons_name]
    by_cases hname : name = k
    · rw [if_pos hname, if_pos hname]
    · rw [if_neg hname, if_neg hname]
      by_cases hlt : Precedes name k
      · rw [if_pos hlt, lookup_eq_none_of_precedes fun p hp => hlt.trans (hk p hp)]
      · rw [if_neg hlt, ih hrest]

theorem Ascending.eq_of_lookup_eq :
    ∀ {s t : List (String × β)}, Ascending s → Ascending t → (∀ name, s.lookup name = t.lookup name) → s = t
  | [], [], _, _, _ => rfl
  | [], (k, y) :: t, _, _, h => by
    have hk := h k
    rw [lookup_cons_name, if_pos rfl] at hk
    cases hk
  | (k, x) :: s, [], _, _, h => by
    have hk := h k
    rw [lookup_cons_name, if_pos rfl] at hk
    cases hk
  | (k, x) :: s, (l, y) :: t, hs, ht, h => by
    obtain ⟨hks, hs'⟩ := List.pairwise_cons.mp hs
    obtain ⟨hlt, ht'⟩ := List.pairwise_cons.mp ht
    have first : ∀ {k l : String} {x y : β} {s t : List (String × β)}, (∀ p ∈ t, Precedes l p.1) →
        (∀ name, ((k, x) :: s).lookup name = ((l, y) :: t).lookup name) → ¬Precedes k l := by
      intro k l x y s t hlt h hkl
      have hk := h k
      rw [lookup_cons_name, if_pos rfl, lookup_eq_none_of_precedes] at hk
      · cases hk
      · intro p hp
        rcases List.mem_cons.mp hp with rfl | hp
        · exact hkl
        · exact hkl.trans (hlt p hp)
    have hkl : k = l := Decidable.byContradiction fun hne =>
      first hks (fun name => (h name).symm) (Precedes.of_not (first hlt h) hne)
    subst hkl
    have hx := h k
    rw [lookup_cons_name, lookup_cons_name, if_pos rfl, if_pos rfl] at hx
    cases hx
    have htail : s = t := Ascending.eq_of_lookup_eq hs' ht' fun name => by
      by_cases hn : name = k
      · rw [hn, lookup_eq_none_of_precedes hks, lookup_eq_none_of_precedes hlt]
      · have hname := h name
        rw [lookup_cons_name, lookup_cons_name, if_neg hn, if_neg hn] at hname
        exact hname
    rw [htail]

/-- Where every name stands once, its value is found. -/
theorem lookup_eq_some_iff_mem {entries : List (String × β)} (h : (entries.map Prod.fst).Nodup) {name : String}
    {value : β} : entries.lookup name = some value ↔ (name, value) ∈ entries := by
  induction entries with
  | nil => simp
  | cons p rest ih =>
    obtain ⟨k, x⟩ := p
    rw [List.map_cons, List.nodup_cons] at h
    rw [lookup_cons_name, List.mem_cons, Prod.mk.injEq]
    by_cases hk : name = k
    · subst hk
      have hrest : (name, value) ∉ rest := fun hmem => h.1 (List.mem_map.mpr ⟨_, hmem, rfl⟩)
      simp [hrest, eq_comm]
    · simp [hk, ih h.2]

theorem Ascending.nodup {entries : List (String × β)} (h : Ascending entries) : (entries.map Prod.fst).Nodup := by
  refine List.pairwise_map.mpr (h.imp fun {p q} hpq heq => ?_)
  exact Precedes.irrefl q.1 (heq ▸ hpq)

/-! ## Tables -/

namespace Table

@[simp] theorem get?_empty (name : String) : (∅ : Table β).get? name = none := rfl

theorem get?_insert (t : Table β) (name m : String) (value : β) :
    (t.insert name value).get? m = if m = name then some value else t.get? m :=
  lookup_insertEntry name m value t.entries

@[simp] theorem get?_insert_self (t : Table β) (name : String) (value : β) :
    (t.insert name value).get? name = some value := by
  rw [get?_insert, if_pos rfl]

theorem get?_insert_of_ne (t : Table β) {name m : String} (value : β) (h : m ≠ name) :
    (t.insert name value).get? m = t.get? m := by
  rw [get?_insert, if_neg h]

theorem eq_of_get?_eq {t u : Table β} (h : ∀ name, t.get? name = u.get? name) : t = u := by
  obtain ⟨s, hs⟩ := t
  obtain ⟨r, hr⟩ := u
  have he : s = r := hs.eq_of_lookup_eq hr h
  subst he
  rfl

theorem insert_comm (t : Table β) {name m : String} (h : name ≠ m) (x y : β) :
    (t.insert name x).insert m y = (t.insert m y).insert name x := by
  refine eq_of_get?_eq fun k => ?_
  simp only [get?_insert]
  by_cases hname : k = name
  · have hm : k ≠ m := fun hm => h (hname.symm.trans hm)
    rw [if_neg hm, if_pos hname, if_pos hname]
  · rw [if_neg hname, if_neg hname]

theorem exchange_fst (t : Table β) (name : String) (value : β) : (t.exchange name value).1 = t.get? name :=
  displaced?_eq_lookup t.ascending name

@[simp] theorem exchange_snd (t : Table β) (name : String) (value : β) :
    (t.exchange name value).2 = t.insert name value := rfl

theorem get?_ofList (pairs : List (String × β)) (name : String) :
    (ofList pairs).get? name = pairs.reverse.lookup name := by
  induction pairs with
  | nil => rfl
  | cons p rest ih =>
    obtain ⟨k, x⟩ := p
    have hcons : ofList ((k, x) :: rest) =
        if (ofList rest).contains k then ofList rest else (ofList rest).insert k x := rfl
    rw [hcons, List.reverse_cons, List.lookup_append, ← ih, lookup_cons_name]
    by_cases hk : (ofList rest).contains k = true
    · rw [if_pos hk]
      by_cases hn : name = k
      · subst hn
        obtain ⟨y, hy⟩ := Option.isSome_iff_exists.mp hk
        rw [hy]
        rfl
      · rw [if_neg hn]
        simp
    · rw [if_neg hk, get?_insert]
      by_cases hn : name = k
      · subst hn
        have hnone : (ofList rest).get? name = none := by simpa [contains] using hk
        rw [if_pos rfl, if_pos rfl, hnone]
        rfl
      · rw [if_neg hn, if_neg hn]
        simp

/-! ## Entries of tables -/

theorem get?_eq_some_iff {t : Table β} {name : String} {value : β} :
    t.get? name = some value ↔ (name, value) ∈ t.entries :=
  lookup_eq_some_iff_mem t.ascending.nodup

theorem mem_names_iff {t : Table β} {name : String} : name ∈ t.names ↔ ∃ value, t.get? name = some value := by
  simp [names, get?_eq_some_iff]

theorem mem_values_iff {t : Table β} {value : β} : value ∈ t.values ↔ ∃ name, t.get? name = some value := by
  simp [values, get?_eq_some_iff]

theorem names_subset_insert (t : Table β) (name : String) (value : β) : t.names ⊆ (t.insert name value).names := by
  intro m hm
  obtain ⟨x, hx⟩ := mem_names_iff.mp hm
  rw [mem_names_iff, get?_insert]
  split
  · exact ⟨value, rfl⟩
  · exact ⟨x, hx⟩

theorem ofList_of_perm {t : Table β} {pairs : List (String × β)} (h : pairs.Perm t.entries) : ofList pairs = t := by
  have hreverse : pairs.reverse.Perm t.entries := (List.reverse_perm pairs).trans h
  have hnodup : (pairs.reverse.map Prod.fst).Nodup := (hreverse.map Prod.fst).nodup_iff.mpr t.ascending.nodup
  refine eq_of_get?_eq fun name => Option.ext fun value => ?_
  rw [get?_ofList, lookup_eq_some_iff_mem hnodup, get?_eq_some_iff]
  exact hreverse.mem_iff

/-- Pairs that are entered one after the other. -/
theorem get?_foldl_insert (t : Table β) (pairs : List (String × β)) (name : String) :
    (pairs.foldl (fun t p => t.insert p.1 p.2) t).get? name = (pairs.reverse.lookup name).or (t.get? name) := by
  induction pairs generalizing t with
  | nil => rfl
  | cons p rest ih =>
    obtain ⟨k, x⟩ := p
    rw [List.foldl_cons, ih, get?_insert, List.reverse_cons, List.lookup_append, lookup_cons_name, Option.or_assoc]
    split <;> rfl

theorem foldl_insert_eq_ofList (pairs : List (String × β)) :
    pairs.foldl (fun t p => t.insert p.1 p.2) ∅ = ofList pairs := by
  refine eq_of_get?_eq fun name => ?_
  rw [get?_foldl_insert, get?_ofList, get?_empty, Option.or_none]

end Table

end DeskCalc
