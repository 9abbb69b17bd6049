import BuildRemarks.NameMap

/-!
# Laws of look-up

How a map answers after many entries have been put into it. The names of a map ascend, so
that no name stands twice in its entries, and entering all of them shadows the earlier value
of each of these names and no other. A map is its answers, and an entry that is put in takes
the place of the one that its name had. Before that some laws of lists that are read in order.
-/

namespace BuildRemarks

/-- One more element gives what is given last, or leaves it. -/
theorem getLast?_filterMap_concat {α β : Type} (f : β → Option α) (bs : List β) (b : β) :
    ((bs ++ [b]).filterMap f).getLast? = (f b).or (bs.filterMap f).getLast? := by
  rw [List.filterMap_append, List.getLast?_append]
  cases hb : f b <;> simp [hb]

/-- What every step keeps a fold keeps. -/
theorem foldl_keeps {α β γ : Type} (part : α → γ) {step : α → β → α}
    (h : ∀ a b, part (step a b) = part a) (a : α) (bs : List β) :
    part (bs.foldl step a) = part a := by
  induction bs generalizing a with
  | nil => rfl
  | cons b bs ih => rw [List.foldl_cons, ih, h]

/-- Where each step writes a part or leaves it, the last write counts. -/
theorem foldl_writes {α β γ : Type} (part : α → Option γ) {step : α → β → α}
    {write : β → Option γ} (h : ∀ a b, part (step a b) = (write b).or (part a)) (a : α)
    (bs : List β) : part (bs.foldl step a) = (bs.filterMap write).getLast?.or (part a) := by
  induction bs generalizing a with
  | nil => rfl
  | cons b bs ih =>
    rw [List.foldl_cons, ih, h, ← Option.or_assoc, List.filterMap_cons]
    cases write b with
    | none => rw [Option.or_none]
    | some c => cases hbs : bs.filterMap write <;> simp [List.getLast?_cons]

/-- Names in ascending order are known from which names they are. -/
theorem eq_of_mem_iff {xs ys : List String} (hxs : xs.Pairwise (· < ·))
    (hys : ys.Pairwise (· < ·)) (h : ∀ name, name ∈ xs ↔ name ∈ ys) : xs = ys := by
  have hperm : xs.Perm ys :=
    (List.perm_ext_iff_of_nodup (hxs.imp String.ne_of_lt) (hys.imp String.ne_of_lt)).2 h
  refine hperm.eq_of_pairwise (fun a b _ _ hab hba => ?_) hxs hys
  exact absurd (String.lt_trans hab hba) (String.lt_irrefl a)

namespace NameMap

variable {α : Type}

/-- A name behind all others goes to the end. -/
theorem insertEntry_eq_append {name : String} (value : α) {es : List (String × α)}
    (h : ∀ e ∈ es, e.1 < name) : insertEntry name value es = es ++ [(name, value)] := by
  induction es with
  | nil => rfl
  | cons d ds ih =>
    have hd : d.1 < name := h d List.mem_cons_self
    have hnot : ¬ name < d.1 := fun hlt => String.lt_irrefl _ (String.lt_trans hlt hd)
    rw [insertEntry, if_neg hnot, if_pos hd, ih fun e he => h e (List.mem_cons_of_mem d he)]
    rfl

theorem lookup_eq_some_iff_mem {name : String} {value : α}
    {es : List (String × α)} (h : (es.map (·.1)).Nodup) :
    es.lookup name = some value ↔ (name, value) ∈ es := by
  induction es with
  | nil => simp
  | cons d ds ih =>
    obtain ⟨hd, hds⟩ := List.nodup_cons.1 (List.map_cons ▸ h)
    rw [lookup_cons, List.mem_cons]
    by_cases hn : name = d.1
    · have hnot : ¬ (name, value) ∈ ds := fun hm => hd (hn ▸ List.mem_map_of_mem hm)
      rw [if_pos hn, Option.some.injEq]
      constructor
      · rintro rfl
        exact Or.inl (Prod.ext hn rfl)
      · rintro (rfl | hm)
        · rfl
        · exact absurd hm hnot
    · rw [if_neg hn, ih hds]
      constructor
      · exact Or.inr
      · rintro (rfl | hm)
        · exact absurd rfl hn
        · exact hm

theorem lookup_eq_none_of_lt {name : String} {es : List (String × α)}
    (h : ∀ e ∈ es, name < e.1) : es.lookup name = none := by
  induction es with
  | nil => rfl
  | cons d ds ih =>
    have hd : name < d.1 := h d List.mem_cons_self
    have hne : ¬ name = d.1 := fun e => String.lt_irrefl _ (e ▸ hd)
    rw [lookup_cons, if_neg hne]
    exact ih fun e he => h e (List.mem_cons_of_mem d he)

theorem get?_foldl_insert (m : NameMap α) (name : String) {es : List (String × α)}
    (h : es.Pairwise fun a b => a.1 < b.1) :
    (es.foldl (fun m e => m.insert e.1 e.2) m).get? name =
      (es.lookup name).or (m.get? name) := by
  induction es generalizing m with
  | nil => rfl
  | cons d ds ih =>
    obtain ⟨hd, hds⟩ := List.pairwise_cons.1 h
    rw [List.foldl_cons, ih (m.insert d.1 d.2) hds, lookup_cons, get?_insert]
    by_cases hn : name = d.1
    · have hnone : ds.lookup name = none := lookup_eq_none_of_lt fun e he => hn ▸ hd e he
      rw [if_pos hn, if_pos hn, hnone]
      rfl
    · rw [if_neg hn, if_neg hn]

theorem get?_insertAll (m n : NameMap α) (name : String) :
    (m.insertAll n.entries).get? name = (n.get? name).or (m.get? name) :=
  get?_foldl_insert m name n.ascending

theorem get?_singleton (name other : String) (value : α) :
    (empty.insert name value).get? other = if other = name then some value else none := by
  rw [get?_insert, get?_empty]

theorem contains_singleton (name other : String) (value : α) :
    (empty.insert name value).contains other = decide (other = name) := by
  rw [contains, get?_singleton]
  by_cases h : other = name
  · rw [if_pos h, decide_eq_true h]
    rfl
  · rw [if_neg h, decide_eq_false h]
    rfl

theorem not_contains_empty (name : String) : (empty : NameMap α).contains name = false := rfl

/-! ### Entries -/

theorem nodup_names (m : NameMap α) : (m.entries.map (·.1)).Nodup := by
  have hlt : (m.entries.map (·.1)).Pairwise (· < ·) := List.pairwise_map.2 m.ascending
  exact hlt.imp String.ne_of_lt

theorem get?_eq_some_iff_mem (m : NameMap α) (e : String × α) :
    m.get? e.1 = some e.2 ↔ e ∈ m.entries :=
  lookup_eq_some_iff_mem m.nodup_names

theorem nodup_entries (m : NameMap α) : m.entries.Nodup :=
  List.pairwise_map.1 m.nodup_names |>.imp fun hne e => hne (congrArg Prod.fst e)

/-- Maps that answer alike are equal. -/
theorem ext_get? {m n : NameMap α} (h : ∀ name, m.get? name = n.get? name) : m = n := by
  have hmem : ∀ e, e ∈ m.entries ↔ e ∈ n.entries := by
    intro e
    rw [← get?_eq_some_iff_mem, ← get?_eq_some_iff_mem, h]
  have hperm : m.entries.Perm n.entries :=
    (List.perm_ext_iff_of_nodup m.nodup_entries n.nodup_entries).2 hmem
  refine ext_entries (hperm.eq_of_pairwise (fun a b _ _ hab hba => ?_) m.ascending n.ascending)
  exact absurd (String.lt_trans hab hba) (String.lt_irrefl a.1)

/-- A new entry goes in and the earlier one of its name comes out. -/
theorem perm_insertEntry (name : String) (value : α) {es : List (String × α)}
    (h : es.Pairwise fun a b => a.1 < b.1) :
    (insertEntry name value es ++ ((es.lookup name).map fun v => (name, v)).toList).Perm
      (es ++ [(name, value)]) := by
  induction es with
  | nil => exact .refl _
  | cons d ds ih =>
    obtain ⟨hd, hds⟩ := List.pairwise_cons.1 h
    rw [insertEntry]
    by_cases hlt : name < d.1
    · have hnone : (d :: ds).lookup name = none := by
        refine lookup_eq_none_of_lt fun e he => ?_
        rcases List.mem_cons.1 he with rfl | he
        · exact hlt
        · exact String.lt_trans hlt (hd e he)
      rw [if_pos hlt, hnone, Option.map_none, Option.toList_none, List.append_nil]
      exact (List.perm_append_singleton _ _).symm
    · rw [if_neg hlt]
      by_cases hgt : d.1 < name
      · have hne : ¬ name = d.1 := fun e => String.lt_irrefl _ (e ▸ hgt)
        rw [if_pos hgt, lookup_cons, if_neg hne]
        exact (ih hds).cons d
      · have hname : name = d.1 := eq_of_not_lt hlt hgt
        rw [if_neg hgt, lookup_cons, if_pos hname, Option.map_some, Option.toList_some, hname]
        calc List.Perm ((d.1, value) :: (ds ++ [d])) ((d.1, value) :: d :: ds) :=
              (List.perm_append_singleton d ds).cons (d.1, value)
          List.Perm _ (d :: (d.1, value) :: ds) := .swap d (d.1, value) ds
          List.Perm _ (d :: (ds ++ [(d.1, value)])) :=
              (List.perm_append_singleton (d.1, value) ds).symm.cons d

theorem perm_insert (m : NameMap α) (name : String) (value : α) :
    ((m.insert name value).entries ++ ((m.get? name).map fun v => (name, v)).toList).Perm
      (m.entries ++ [(name, value)]) :=
  perm_insertEntry name value m.ascending

/-- A value that holds what the earlier one of its name held, and more, adds this to what all
values of the map hold. -/
theorem perm_flatMap_insert {β : Type} (part : α → List β) (m : NameMap α) {name : String}
    {value : α} {more : List β} (h : part value = ((m.get? name).map part).getD [] ++ more) :
    ((m.insert name value).entries.flatMap fun e => part e.2).Perm
      ((m.entries.flatMap fun e => part e.2) ++ more) := by
  have hput := (perm_insert m name value).flatMap_right fun e => part e.2
  have hearlier : (((m.get? name).map fun v => (name, v)).toList.flatMap fun e => part e.2) =
      ((m.get? name).map part).getD [] := by
    cases m.get? name with
    | none => rfl
    | some v => exact List.append_nil _
  rw [List.flatMap_append, List.flatMap_append, List.flatMap_singleton, hearlier, h] at hput
  -- what the earlier value held is held again by the new one
  have hcomm : (((m.get? name).map part).getD [] ++ more).Perm
      (more ++ ((m.get? name).map part).getD []) := List.perm_append_comm
  have hswap := hcomm.append_left (m.entries.flatMap fun e => part e.2)
  rw [← List.append_assoc (m.entries.flatMap fun e => part e.2) more] at hswap
  exact (List.perm_append_right_iff _).1 (hput.trans hswap)

/-! ### Names -/

theorem ascending_names (m : NameMap α) : m.names.Pairwise (· < ·) :=
  List.pairwise_map.2 m.ascending

theorem mem_names_iff {m : NameMap α} {name : String} :
    name ∈ m.names ↔ ∃ value, m.get? name = some value := by
  rw [names, List.mem_map]
  constructor
  · rintro ⟨e, he, rfl⟩
    exact ⟨e.2, (m.get?_eq_some_iff_mem e).2 he⟩
  · rintro ⟨value, hget⟩
    exact ⟨(name, value), (m.get?_eq_some_iff_mem (name, value)).1 hget, rfl⟩

end NameMap

end BuildRemarks
