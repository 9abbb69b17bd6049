/-!
# Maps from names

A map from names to values is kept as the list of its entries in ascending order of
the names, so that two maps with the same entries are equal and a walk over a map
meets the names in order.
-/

namespace BuildRemarks

/-- A finite map from names. -/
structure NameMap (α : Type) where
  entries : List (String × α)
  ascending : entries.Pairwise fun a b => a.1 < b.1

namespace NameMap

variable {α : Type}

theorem ext_entries {m n : NameMap α} (h : m.entries = n.entries) : m = n := by
  cases m
  cases n
  cases h
  rfl

instance [DecidableEq α] : DecidableEq (NameMap α) := fun m n =>
  decidable_of_iff (m.entries = n.entries) ⟨ext_entries, fun h => h ▸ rfl⟩

def empty : NameMap α := ⟨[], .nil⟩

def names (m : NameMap α) : List String := m.entries.map (·.1)

def size (m : NameMap α) : Nat := m.entries.length

def isEmpty (m : NameMap α) : Bool := m.entries.isEmpty

def get? (m : NameMap α) (name : String) : Option α := m.entries.lookup name

def contains (m : NameMap α) (name : String) : Bool := (m.get? name).isSome

def insertEntry (name : String) (value : α) : List (String × α) → List (String × α)
  | [] => [(name, value)]
  | e :: es =>
    if name < e.1 then (name, value) :: e :: es
    else if e.1 < name then e :: insertEntry name value es
    else (name, value) :: es

theorem eq_of_not_lt {a b : String} (h₁ : ¬ a < b) (h₂ : ¬ b < a) : a = b :=
  String.le_antisymm (String.not_lt.1 h₂) (String.not_lt.1 h₁)

theorem name_of_mem_insertEntry {name : String} {value : α} {es : List (String × α)}
    {e : String × α} (h : e ∈ insertEntry name value es) : e.1 = name ∨ e ∈ es := by
  induction es with
  | nil =>
    simp only [insertEntry, List.mem_singleton] at h
    exact Or.inl (h ▸ rfl)
  | cons d ds ih =>
    simp only [insertEntry] at h
    split at h
    · rcases List.mem_cons.1 h with h | h
      · exact Or.inl (h ▸ rfl)
      · exact Or.inr h
    · split at h
      · rcases List.mem_cons.1 h with h | h
        · exact Or.inr (h ▸ List.mem_cons_self)
        · exact (ih h).imp id (List.mem_cons_of_mem d)
      · rcases List.mem_cons.1 h with h | h
        · exact Or.inl (h ▸ rfl)
        · exact Or.inr (List.mem_cons_of_mem d h)

theorem ascending_insertEntry (name : String) (value : α) {es : List (String × α)}
    (h : es.Pairwise fun a b => a.1 < b.1) :
    (insertEntry name value es).Pairwise fun a b => a.1 < b.1 := by
  induction es with
  | nil => exact List.pairwise_singleton _ _
  | cons d ds ih =>
    obtain ⟨hd, hds⟩ := List.pairwise_cons.1 h
    simp only [insertEntry]
    split
    · rename_i hlt
      refine List.pairwise_cons.2 ⟨fun e he => ?_, h⟩
      rcases List.mem_cons.1 he with he | he
      · exact he ▸ hlt
      · exact String.lt_trans hlt (hd e he)
    · rename_i hnlt
      split
      · rename_i hgt
        refine List.pairwise_cons.2 ⟨fun e he => ?_, ih hds⟩
        rcases name_of_mem_insertEntry he with he | he
        · exact he ▸ hgt
        · exact hd e he
      · rename_i hngt
        have hname : d.1 = name := (eq_of_not_lt hnlt hngt).symm
        exact List.pairwise_cons.2 ⟨fun e he => hname ▸ hd e he, hds⟩

/-- Gives a name a value, in place of an earlier one. -/
def insert (m : NameMap α) (name : String) (value : α) : NameMap α :=
  ⟨insertEntry name value m.entries, ascending_insertEntry name value m.ascending⟩

/-- Gives a name the value that `f` makes from its present one. -/
def alter (m : NameMap α) (name : String) (f : Option α → α) : NameMap α :=
  m.insert name (f (m.get? name))

def insertAll (m : NameMap α) (pairs : List (String × α)) : NameMap α :=
  pairs.foldl (fun m p => m.insert p.1 p.2) m

/-- The map of the pairs, of which a later one wins. -/
def ofList (pairs : List (String × α)) : NameMap α := empty.insertAll pairs

theorem get?_empty (name : String) : (empty : NameMap α).get? name = none := rfl

theorem lookup_cons (other : String) (e : String × α) (es : List (String × α)) :
    (e :: es).lookup other = if other = e.1 then some e.2 else es.lookup other := by
  show (match other == e.1 with
    | true => some e.2
    | false => es.lookup other) = _
  by_cases h : other = e.1
  · rw [if_pos h, beq_iff_eq.2 h]
  · rw [if_neg h, beq_eq_false_iff_ne.2 h]

theorem lookup_insertEntry (name other : String) (value : α) (es : List (String × α)) :
    (insertEntry name value es).lookup other =
      if other = name then some value else es.lookup other := by
  induction es with
  | nil => rw [insertEntry, lookup_cons]
  | cons d ds ih =>
    simp only [insertEntry]
    split
    · rw [lookup_cons]
    · rename_i hnlt
      split
      · rename_i hgt
        rw [lookup_cons, lookup_cons, ih]
        by_cases h : other = name
        · have hne : ¬ other = d.1 := fun e => String.lt_irrefl _ ((e ▸ h : d.1 = name) ▸ hgt)
          rw [if_neg hne, if_pos h, if_pos h]
        · rw [if_neg h, if_neg h]
      · rename_i hngt
        have hname : d.1 = name := (eq_of_not_lt hnlt hngt).symm
        rw [lookup_cons, lookup_cons, hname]
        by_cases h : other = name
        · rw [if_pos h, if_pos h]
        · rw [if_neg h, if_neg h, if_neg h]

theorem get?_insert (m : NameMap α) (name other : String) (value : α) :
    (m.insert name value).get? other = if other = name then some value else m.get? other :=
  lookup_insertEntry name other value m.entries

theorem get?_insert_self (m : NameMap α) (name : String) (value : α) :
    (m.insert name value).get? name = some value := by
  rw [get?_insert, if_pos rfl]

theorem get?_alter (m : NameMap α) (name other : String) (f : Option α → α) :
    (m.alter name f).get? other = if other = name then some (f (m.get? name)) else m.get? other :=
  get?_insert m name other (f (m.get? name))

end NameMap

end BuildRemarks
