import BuildRemarks.Proofs.Query.Balance

/-!
# Remarks by function

The groups of a list share its named remarks out by their function, in the order of the list. The
names of the kernels, sorted and with each run of one name made one, are those of the groups of the
kernel remarks, and merging, which asks for the function of a remark itself and not for that of its
place, makes no kernel beyond them.
-/

namespace BuildRemarks.Query

/-- The function of a remark: its own name, or that of its place if it has none. -/
inductive BelongsTo (r : Remark) : String → Prop
  | own : r.function ≠ "" → BelongsTo r r.function
  | place {l : Location} {name : String} :
    r.function = "" → r.location = some l → l.function = some name → name ≠ "" →
      BelongsTo r name

theorem functionOf_eq_some_iff {r : Remark} {name : String} :
    functionOf r = some name ↔ BelongsTo r name := by
  rw [functionOf, Option.filter_eq_some_iff]
  by_cases hempty : r.function = ""
  · rw [if_pos hempty, Option.bind_eq_some_iff]
    constructor
    · rintro ⟨⟨l, hl, hname⟩, hne⟩
      exact .place hempty hl hname (of_decide_eq_true hne)
    · rintro (hne | ⟨-, hl, hname, hne⟩)
      · exact absurd hempty hne
      · exact ⟨⟨_, hl, hname⟩, decide_eq_true hne⟩
  · rw [if_neg hempty, Option.some.injEq]
    constructor
    · rintro ⟨rfl, -⟩
      exact .own hempty
    · rintro (hne | ⟨h, -, -, -⟩)
      · exact ⟨rfl, decide_eq_true hne⟩
      · exact absurd h hempty

instance (r : Remark) (name : String) : Decidable (BelongsTo r name) :=
  decidable_of_iff (functionOf r = some name) functionOf_eq_some_iff

theorem BelongsTo.unique {r : Remark} {name other : String} (h : BelongsTo r name)
    (hother : BelongsTo r other) : name = other := by
  rw [← functionOf_eq_some_iff] at h hother
  exact Option.some.inj (h.symm.trans hother)

/-- The remark belongs to some function. -/
def Named (r : Remark) : Prop := ∃ name, BelongsTo r name

theorem isSome_functionOf_iff {r : Remark} : (functionOf r).isSome = true ↔ Named r := by
  rw [Option.isSome_iff_exists]
  exact exists_congr fun _ => functionOf_eq_some_iff

instance (r : Remark) : Decidable (Named r) := decidable_of_iff _ isSome_functionOf_iff

/-! ### Groups -/

section Groups

variable {α : Type} (name? : α → Option String)

/-- One step of the grouping. -/
def put (groups : NameMap (List α)) (a : α) : NameMap (List α) :=
  match name? a with
  | some name => addToGroup groups name a
  | none => groups

theorem groupBy_eq_foldl (as : List α) : groupBy name? as = as.foldl (put name?) .empty := rfl

/-- A group with more members behind those that it has. -/
def extended (group : Option (List α)) : List α → Option (List α)
  | [] => group
  | more => some (group.getD [] ++ more)

theorem get?_put (groups : NameMap (List α)) (a : α) (name : String) :
    (put name? groups a).get? name =
      extended (groups.get? name) (if name? a = some name then [a] else []) := by
  rw [put]
  cases ha : name? a with
  | none => rfl
  | some other =>
    show (addToGroup groups other a).get? name = _
    rw [addToGroup, NameMap.get?_alter]
    by_cases hn : name = other
    · rw [if_pos hn, if_pos (congrArg some hn.symm), hn]
      rfl
    · rw [if_neg hn, if_neg fun e => hn (Option.some.inj e).symm]
      rfl

theorem extended_extended (group : Option (List α)) (xs ys : List α) :
    extended (extended group xs) ys = extended group (xs ++ ys) := by
  cases xs with
  | nil => rfl
  | cons x xs =>
    cases ys with
    | nil => rw [List.append_nil, extended]
    | cons y ys => simp only [extended, List.cons_append, Option.getD_some, List.append_assoc]

theorem get?_foldl_put (groups : NameMap (List α)) (as : List α) (name : String) :
    (as.foldl (put name?) groups).get? name =
      extended (groups.get? name) (as.filter fun a => name? a = some name) := by
  induction as generalizing groups with
  | nil => rfl
  | cons a as ih =>
    have hfilter : ((a :: as).filter fun a => name? a = some name) =
        (if name? a = some name then [a] else []) ++ as.filter fun a => name? a = some name := by
      rw [List.filter_cons]
      by_cases h : name? a = some name
      · rw [if_pos (decide_eq_true h), if_pos h, List.singleton_append]
      · rw [if_neg (by simpa using h), if_neg h, List.nil_append]
    rw [List.foldl_cons, ih, get?_put, extended_extended, hfilter]

/-- A group has members, and they are those of its name in their order. -/
theorem get?_groupBy_eq_some_iff {as group : List α} {name : String} :
    (groupBy name? as).get? name = some group ↔
      group ≠ [] ∧ group = as.filter fun a => name? a = some name := by
  rw [groupBy_eq_foldl, get?_foldl_put, NameMap.get?_empty]
  cases as.filter fun a => name? a = some name with
  | nil =>
    constructor
    · intro h
      cases h
    · rintro ⟨hne, rfl⟩
      exact absurd rfl hne
  | cons a more =>
    constructor
    · intro h
      cases h
      exact ⟨List.cons_ne_nil a more, rfl⟩
    · rintro ⟨-, rfl⟩
      rfl

theorem mem_names_groupBy {as : List α} {name : String} :
    name ∈ (groupBy name? as).names ↔ ∃ a ∈ as, name? a = some name := by
  rw [NameMap.mem_names_iff]
  constructor
  · rintro ⟨group, hget⟩
    obtain ⟨hne, rfl⟩ := (get?_groupBy_eq_some_iff name?).1 hget
    obtain ⟨a, ha⟩ := List.exists_mem_of_ne_nil _ hne
    obtain ⟨hmem, hname⟩ := List.mem_filter.1 ha
    exact ⟨a, hmem, of_decide_eq_true hname⟩
  · rintro ⟨a, hmem, hname⟩
    have ha : a ∈ as.filter fun a => name? a = some name :=
      List.mem_filter.2 ⟨hmem, decide_eq_true hname⟩
    exact ⟨_, (get?_groupBy_eq_some_iff name?).2 ⟨List.ne_nil_of_mem ha, rfl⟩⟩

/-- The members of all groups, one group behind the other. -/
def members (groups : NameMap (List α)) : List α := groups.entries.flatMap fun e => e.2

theorem perm_members_put (groups : NameMap (List α)) (a : α) :
    (members (put name? groups a)).Perm
      (members groups ++ if (name? a).isSome then [a] else []) := by
  rw [put]
  cases name? a with
  | none => exact .of_eq (List.append_nil _).symm
  | some name =>
    refine NameMap.perm_flatMap_insert id groups ?_
    cases groups.get? name <;> rfl

theorem perm_members_foldl_put (groups : NameMap (List α)) (as : List α) :
    (members (as.foldl (put name?) groups)).Perm
      (members groups ++ as.filter fun a => (name? a).isSome) := by
  induction as generalizing groups with
  | nil => exact .of_eq (List.append_nil _).symm
  | cons a as ih =>
    have hfilter : ((a :: as).filter fun a => (name? a).isSome) =
        (if (name? a).isSome then [a] else []) ++ as.filter fun a => (name? a).isSome := by
      rw [List.filter_cons]
      cases name? a <;> rfl
    rw [List.foldl_cons, hfilter, ← List.append_assoc]
    exact (ih (put name? groups a)).trans ((perm_members_put name? groups a).append_right _)

/-- What has a name is in one group, once. -/
theorem perm_members_groupBy (as : List α) :
    (members (groupBy name? as)).Perm (as.filter fun a => (name? a).isSome) :=
  perm_members_foldl_put name? .empty as

end Groups

/-! ### Sorted names -/

theorem sorted_mergeSort (names : List String) : names.mergeSort.Pairwise (· ≤ ·) := by
  have htrans (a b c : String) (hab : decide (a ≤ b) = true) (hbc : decide (b ≤ c) = true) :
      decide (a ≤ c) = true :=
    decide_eq_true (String.le_trans (of_decide_eq_true hab) (of_decide_eq_true hbc))
  have htotal (a b : String) : (decide (a ≤ b) || decide (b ≤ a)) = true := by
    rw [Bool.or_eq_true, decide_eq_true_eq, decide_eq_true_eq]
    exact String.le_total a b
  exact (List.pairwise_mergeSort htrans htotal names).imp of_decide_eq_true

section Runs

variable {last name : String} {rest kept : List String}

/-- The loop keeps what it has kept, the name at hand and the names behind it. -/
theorem mem_eraseRepsBy_loop :
    name ∈ List.eraseRepsBy.loop (· == ·) last rest kept ↔
      name ∈ kept ∨ name = last ∨ name ∈ rest := by
  induction rest generalizing last kept with
  | nil => simp [List.eraseRepsBy.loop, or_comm]
  | cons next rest ih =>
    rw [List.eraseRepsBy.loop]
    by_cases h : last = next
    · rw [beq_iff_eq.2 h, ih, h, List.mem_cons, or_self_left]
    · rw [beq_eq_false_iff_ne.2 h, ih, List.mem_cons, List.mem_cons, or_assoc, or_left_comm]

/-- Names in order leave the loop in strict order, since only a new name is kept. -/
theorem ascending_eraseRepsBy_loop (hkept : (last :: kept).Pairwise fun a b => b < a)
    (hrest : (last :: rest).Pairwise (· ≤ ·)) :
    (List.eraseRepsBy.loop (· == ·) last rest kept).Pairwise (· < ·) := by
  induction rest generalizing last kept with
  | nil => exact List.pairwise_reverse.2 hkept
  | cons next rest ih =>
    obtain ⟨hlast, hnext⟩ := List.pairwise_cons.1 hrest
    rw [List.eraseRepsBy.loop]
    by_cases h : last = next
    · rw [beq_iff_eq.2 h]
      exact ih hkept (h ▸ hnext)
    · rw [beq_eq_false_iff_ne.2 h]
      have hle : last ≤ next := hlast next List.mem_cons_self
      have hlt : last < next := String.not_le.1 fun hge => h (String.le_antisymm hle hge)
      refine ih (List.pairwise_cons.2 ⟨fun a ha => ?_, hkept⟩) hnext
      rcases List.mem_cons.1 ha with rfl | ha
      · exact hlt
      · exact String.lt_trans ((List.pairwise_cons.1 hkept).1 a ha) hlt

end Runs

theorem mem_eraseReps {name : String} {names : List String} :
    name ∈ names.eraseReps ↔ name ∈ names := by
  cases names with
  | nil => exact Iff.rfl
  | cons first rest =>
    have hloop : (first :: rest).eraseReps = List.eraseRepsBy.loop (· == ·) first rest [] := rfl
    rw [hloop, mem_eraseRepsBy_loop, List.mem_cons]
    exact or_iff_right List.not_mem_nil

theorem ascending_eraseReps {names : List String} (h : names.Pairwise (· ≤ ·)) :
    names.eraseReps.Pairwise (· < ·) := by
  cases names with
  | nil => exact .nil
  | cons first rest => exact ascending_eraseRepsBy_loop (List.pairwise_singleton _ _) h

/-! ### Functions and kernels -/

theorem filter_functionOf (rs : List Remark) (name : String) :
    (rs.filter fun r => functionOf r = some name) = rs.filter fun r => BelongsTo r name :=
  List.filter_congr fun _ _ => decide_eq_decide.2 functionOf_eq_some_iff

theorem mem_names_byFunction {rs : List Remark} {name : String} :
    name ∈ (byFunction rs).names ↔ ∃ r ∈ rs, BelongsTo r name := by
  rw [byFunction, mem_names_groupBy]
  simp only [functionOf_eq_some_iff]

theorem eq_filter_of_get?_byFunction {rs group : List Remark} {name : String}
    (h : (byFunction rs).get? name = some group) :
    group = rs.filter fun r => BelongsTo r name := by
  rw [← filter_functionOf]
  exact ((get?_groupBy_eq_some_iff functionOf).1 h).2

theorem mem_kernelNames {rs : List Remark} {name : String} :
    name ∈ kernelNames rs ↔ ∃ r ∈ rs, r.kind = .kernel ∧ BelongsTo r name := by
  rw [kernelNames, mem_eraseReps, List.mem_mergeSort, List.mem_filterMap]
  simp only [functionOf_eq_some_iff, byKind, List.mem_filter, decide_eq_true_eq, and_assoc]

theorem ascending_kernelNames (rs : List Remark) : (kernelNames rs).Pairwise (· < ·) :=
  ascending_eraseReps (sorted_mergeSort _)

theorem mem_kernelNames_of_merged {rs : List Remark} {name : String}
    (h : name ∈ (Kernel.mergeByFunction rs).names) : name ∈ kernelNames rs := by
  refine Classical.byContradiction fun hnot => ?_
  have hnone : (Kernel.mergeByFunction rs).get? name = none := by
    refine Kernel.get?_foldl_addContribution_of_ne .empty fun c hc hname => hnot ?_
    obtain ⟨r, hr, hcontribution⟩ := List.mem_filterMap.1 hc
    obtain ⟨hkind, hfunction, hne, -⟩ := Kernel.contribution?_eq_some_iff.1 hcontribution
    have hbelongs : BelongsTo r r.function := .own (hfunction ▸ hne)
    rw [hfunction, hname] at hbelongs
    exact mem_kernelNames.2 ⟨r, hr, hkind, hbelongs⟩
  obtain ⟨d, hget⟩ := NameMap.mem_names_iff.1 h
  rw [hnone] at hget
  cases hget

/-- The groups by function, the names of kernels and the merged kernels of a list agree. -/
structure GroupedByFunction (rs : List Remark) : Prop where
  /-- There is a group for every function of a remark and no other. -/
  mem_names : ∀ name, name ∈ (byFunction rs).names ↔ ∃ r ∈ rs, BelongsTo r name
  /-- The group of a function is made of its remarks in their order. -/
  group : ∀ name group, (byFunction rs).get? name = some group →
    group = rs.filter fun r => BelongsTo r name
  /-- A remark stands in no group but that of its function. -/
  alone : ∀ name group, (byFunction rs).get? name = some group →
    ∀ r ∈ group, ∀ other, BelongsTo r other → other = name
  /-- Each named remark stands in all the groups together as often as in the list. -/
  once : (members (byFunction rs)).Perm (rs.filter fun r => Named r)
  kernelNames_ascending : (kernelNames rs).Pairwise (· < ·)
  kernelNames_eq : kernelNames rs = (byFunction (rs.filter fun r => r.kind = .kernel)).names
  merged : ∀ name ∈ (Kernel.mergeByFunction rs).names, name ∈ kernelNames rs

theorem groupedByFunction (rs : List Remark) : GroupedByFunction rs where
  mem_names := fun _ => mem_names_byFunction
  group := fun _ _ hget => eq_filter_of_get?_byFunction hget
  alone := by
    intro name group hget r hr other hother
    rw [eq_filter_of_get?_byFunction hget] at hr
    have hbelongs : BelongsTo r name := of_decide_eq_true (List.mem_filter.1 hr).2
    exact hother.unique hbelongs
  once := by
    have hnamed : (rs.filter fun r => (functionOf r).isSome) = rs.filter fun r => Named r :=
      List.filter_congr fun r _ => Bool.eq_iff_iff.2 (by
        rw [isSome_functionOf_iff, decide_eq_true_eq])
    rw [← hnamed]
    exact perm_members_groupBy functionOf rs
  kernelNames_ascending := ascending_kernelNames rs
  kernelNames_eq := by
    refine eq_of_mem_iff (ascending_kernelNames rs) (NameMap.ascending_names _) fun name => ?_
    rw [mem_kernelNames, mem_names_byFunction]
    simp only [List.mem_filter, decide_eq_true_eq, and_assoc]
  merged := fun _ h => mem_kernelNames_of_merged h

end BuildRemarks.Query
