import BuildRemarks.Proofs.Kernel.ByFunction
import BuildRemarks.Proofs.Kernel.Merging
import BuildRemarks.Proofs.NameMap
import BuildRemarks.Query

/-!
# The balance of the counts

A descriptor of a list of remarks is either joined to an earlier one of its kernel or passed
over, because its remark names no kernel. What is counted over the remarks one by one is thus
found again in the merged descriptors and in those that are passed over, each time once.
-/

namespace BuildRemarks

namespace Kernel

def descriptors (remarks : List Remark) : List Descriptor := remarks.filterMap (·.kernel)

/-- The remarks that merging passes over. -/
def skipped (remarks : List Remark) : List Remark :=
  remarks.filter fun r => r.kind ≠ .kernel ∨ r.function = ""

/-- A list of a descriptor that merging joins. -/
structure Joined {α : Type} (part : Descriptor → List α) : Prop where
  blank : part .blank = []
  merge : ∀ d later, part (d.merge later) = part d ++ part later

theorem joined_callees : Joined Descriptor.callees := ⟨rfl, Descriptor.callees_merge⟩

theorem joined_memoryAccesses : Joined Descriptor.memoryAccesses :=
  ⟨rfl, Descriptor.memoryAccesses_merge⟩

/-- The lists of all descriptors of a map, one behind the other. -/
def listed {α : Type} (part : Descriptor → List α) (kernels : NameMap Descriptor) : List α :=
  kernels.entries.flatMap fun e => part e.2

/-! ### Joined or passed over -/

theorem map_snd_contribution? (r : Remark) :
    (contribution? r).map (·.2) =
      if r.kind = .kernel ∧ r.function ≠ "" then r.kernel else none := by
  rw [contribution?]
  cases r.kernel with
  | none => rw [Option.map_none, ite_self]
  | some d =>
    dsimp only
    split
    · rfl
    · rfl

/-- Every descriptor is either joined to those of a kernel or passed over. -/
theorem perm_descriptors (remarks : List Remark) :
    (descriptors remarks).Perm
      ((remarks.filterMap contribution?).map (·.2) ++ descriptors (skipped remarks)) := by
  have hjoined : (remarks.filterMap contribution?).map (·.2) =
      descriptors (remarks.filter fun r => r.kind = .kernel ∧ r.function ≠ "") := by
    rw [List.map_filterMap, descriptors, List.filterMap_filter]
    simp only [map_snd_contribution?, decide_eq_true_eq]
  have hskipped : skipped remarks =
      remarks.filter fun r => !decide (r.kind = .kernel ∧ r.function ≠ "") := by
    refine List.filter_congr fun r _ => ?_
    rw [← decide_not]
    exact decide_eq_decide.2 (by rw [not_and_or, not_not])
  rw [hjoined, hskipped, descriptors, descriptors, descriptors, ← List.filterMap_append]
  exact (List.filter_append_perm _ remarks).symm.filterMap _

/-! ### What merging does to the lists -/

variable {α : Type} {part : Descriptor → List α}

theorem perm_addContribution (h : Joined part) (m : NameMap Descriptor)
    (c : String × Descriptor) :
    (listed part (addContribution m c)).Perm (listed part m ++ part c.2) := by
  refine NameMap.perm_flatMap_insert part m ?_
  rw [h.merge]
  cases m.get? c.1 with
  | none => exact congrArg (· ++ part c.2) h.blank
  | some d => rfl

theorem perm_foldl_addContribution (h : Joined part) (m : NameMap Descriptor)
    (cs : List (String × Descriptor)) :
    (listed part (cs.foldl addContribution m)).Perm
      (listed part m ++ (cs.map (·.2)).flatMap part) := by
  induction cs generalizing m with
  | nil => exact .of_eq (List.append_nil _).symm
  | cons c cs ih =>
    rw [List.foldl_cons, List.map_cons, List.flatMap_cons, ← List.append_assoc]
    exact (ih (addContribution m c)).trans ((perm_addContribution h m c).append_right _)

/-- The lists of all descriptors are those of the merged and of the skipped ones. -/
theorem perm_listed (h : Joined part) (remarks : List Remark) :
    ((descriptors remarks).flatMap part).Perm
      (listed part (mergeByFunction remarks) ++
        (descriptors (skipped remarks)).flatMap part) := by
  have hmerged := perm_foldl_addContribution h .empty (remarks.filterMap contribution?)
  have hall := (perm_descriptors remarks).flatMap_right part
  rw [List.flatMap_append] at hall
  exact hall.trans (hmerged.symm.append_right _)

/-! ### Kernels do not touch each other -/

theorem get?_foldl_addContribution_of_ne {f : String} (m : NameMap Descriptor)
    {cs : List (String × Descriptor)} (h : ∀ c ∈ cs, c.1 ≠ f) :
    (cs.foldl addContribution m).get? f = m.get? f := by
  induction cs generalizing m with
  | nil => rfl
  | cons c cs ih =>
    have hne : ¬ c.1 = f := h c List.mem_cons_self
    rw [List.foldl_cons, ih _ fun c hc => h c (List.mem_cons_of_mem _ hc),
      get?_addContribution, if_neg hne]
    rfl

theorem contribution?_eq_some_iff {r : Remark} {c : String × Descriptor} :
    contribution? r = some c ↔
      r.kind = .kernel ∧ r.function = c.1 ∧ c.1 ≠ "" ∧ r.kernel = some c.2 := by
  constructor
  · intro h
    rw [contribution?] at h
    split at h
    · rename_i d hd
      split at h
      · rename_i hr
        cases h
        exact ⟨hr.1, rfl, hr.2, hd⟩
      · cases h
    · cases h
  · rintro ⟨hkind, hfunction, hne, hkernel⟩
    exact contribution?_of_describing hne hkind hfunction hkernel

/-- No kernel goes by the empty name. -/
theorem get?_mergeByFunction_nameless (remarks : List Remark) :
    (mergeByFunction remarks).get? "" = none := by
  refine get?_foldl_addContribution_of_ne .empty fun c hc => ?_
  obtain ⟨r, -, hr⟩ := List.mem_filterMap.1 hc
  exact (contribution?_eq_some_iff.1 hr).2.2.1

theorem mergeByFunction_congr {remarks others : List Remark}
    (h : ∀ f, f ≠ "" → describing f others = describing f remarks) :
    mergeByFunction others = mergeByFunction remarks := by
  refine NameMap.ext_get? fun f => ?_
  by_cases hf : f = ""
  · rw [hf, get?_mergeByFunction_nameless, get?_mergeByFunction_nameless]
  · rw [get?_mergeByFunction hf, get?_mergeByFunction hf, h f hf]

theorem AddressSpace.name_injective {a b : AddressSpace} (h : a.name = b.name) : a = b :=
  Option.some.inj (a.lookup_name.symm.trans (h ▸ b.lookup_name))

end Kernel

namespace Query

open Kernel

/-! ### Counts -/

theorem pos_of_get?_foldl_countOne {names : List String} {counts : NameMap Nat} {name : String}
    (h : ∀ n, counts.get? name = some n → 0 < n) :
    ∀ n, (names.foldl countOne counts).get? name = some n → 0 < n := by
  induction names generalizing counts with
  | nil => exact h
  | cons other names ih =>
    refine ih fun n hn => ?_
    rw [countOne, NameMap.get?_alter] at hn
    split at hn
    · cases hn
      exact Nat.succ_pos _
    · exact h n hn

/-- How a number of occurrences is answered: what does not occur has no entry. -/
def tally (n : Nat) : Option Nat := if n = 0 then none else some n

theorem get?_count (names : List String) (name : String) :
    (count names).get? name = tally (names.count name) := by
  have hcount := getD_count names name
  cases hget : (count names).get? name with
  | none =>
    rw [hget, Option.getD_none] at hcount
    rw [tally, if_pos hcount.symm]
  | some n =>
    have hpos : 0 < n := pos_of_get?_foldl_countOne (by simp [NameMap.get?_empty]) n hget
    rw [hget, Option.getD_some] at hcount
    rw [tally, ← hcount, if_neg (Nat.pos_iff_ne_zero.1 hpos)]

/-- The descriptors' lists are those that the remarks are asked for. -/
theorem flatMap_descriptors {α : Type} (part : Descriptor → List α) (rs : List Remark) :
    (descriptors rs).flatMap part = rs.flatMap fun r => (r.kernel.map part).getD [] := by
  induction rs with
  | nil => rfl
  | cons r rs ih =>
    rw [List.flatMap_cons, ← ih]
    cases hd : r.kernel with
    | none => exact congrArg (List.flatMap part) (List.filterMap_cons_none hd)
    | some d =>
      have hcons : descriptors (r :: rs) = d :: descriptors rs := List.filterMap_cons_some hd
      rw [hcons, List.flatMap_cons]
      rfl

theorem count_flatMap_calleesOf (rs : List Remark) (c : String) :
    (rs.flatMap calleesOf).count c =
      rs.countP (fun r => r.args.callee = some c) +
        ((descriptors rs).flatMap Descriptor.callees).count c := by
  rw [flatMap_descriptors]
  induction rs with
  | nil => rfl
  | cons r rs ih =>
    have hr : calleesOf r =
        r.args.callee.toList ++ (r.kernel.map Descriptor.callees).getD [] := rfl
    have hargs : r.args.callee.toList.count c = if r.args.callee = some c then 1 else 0 := by
      cases r.args.callee with
      | none => rfl
      | some name =>
        simp only [Option.toList_some, List.count_singleton, Option.some.injEq, beq_iff_eq]
    rw [List.flatMap_cons, List.flatMap_cons, List.count_append, List.count_append, ih, hr,
      List.count_append, hargs, List.countP_cons]
    simp only [decide_eq_true_eq]
    omega

theorem count_spaceNames (accesses : List MemoryAccess) (space : AddressSpace) :
    (accesses.map fun a => a.space.name).count space.name =
      accesses.countP fun a => a.space = space := by
  rw [List.count, List.countP_map]
  refine List.countP_congr fun a _ => ?_
  simp only [Function.comp_apply, beq_iff_eq, decide_eq_true_eq]
  exact ⟨AddressSpace.name_injective, congrArg AddressSpace.name⟩

theorem flatMap_memoryAccessesOf (rs : List Remark) :
    rs.flatMap memoryAccessesOf = (descriptors rs).flatMap Descriptor.memoryAccesses :=
  (flatMap_descriptors Descriptor.memoryAccesses rs).symm

/-! ### The balance -/

/-- What is counted over the remarks one by one is what the merged descriptors list and those
that merging passes over, and the merged descriptor of a kernel is made of the remarks that
describe it, in their order, whatever stands between them. -/
structure Balanced (rs : List Remark) : Prop where
  callees : ∀ c, (calleeCounts rs).get? c =
    tally (rs.countP (fun r => r.args.callee = some c) +
      (listed Descriptor.callees (mergeByFunction rs)).count c +
      ((descriptors (skipped rs)).flatMap Descriptor.callees).count c)
  accesses : ∀ space : AddressSpace, (memoryAccessCounts rs).get? space.name =
    tally ((listed Descriptor.memoryAccesses (mergeByFunction rs)).countP (·.space = space) +
      ((descriptors (skipped rs)).flatMap Descriptor.memoryAccesses).countP (·.space = space))
  only_spaces : ∀ name, (memoryAccessCounts rs).contains name = true →
    ∃ space : AddressSpace, space.name = name
  merged_congr : ∀ others, (∀ f, f ≠ "" → describing f others = describing f rs) →
    mergeByFunction others = mergeByFunction rs

theorem mem_of_contains_count {names : List String} {name : String}
    (h : (count names).contains name = true) : name ∈ names := by
  refine Classical.byContradiction fun hnot => ?_
  rw [NameMap.contains, get?_count, List.count_eq_zero.2 hnot] at h
  cases h

theorem balanced (rs : List Remark) : Balanced rs where
  callees := by
    intro c
    have hlisted := (perm_listed joined_callees rs).count_eq c
    rw [List.count_append] at hlisted
    rw [calleeCounts, get?_count, count_flatMap_calleesOf, hlisted, Nat.add_assoc]
  accesses := by
    intro space
    have hlisted := (perm_listed joined_memoryAccesses rs).countP_eq (·.space = space)
    rw [List.countP_append] at hlisted
    rw [memoryAccessCounts, get?_count, flatMap_memoryAccessesOf, count_spaceNames, hlisted]
  only_spaces := by
    intro name h
    obtain ⟨a, -, rfl⟩ := List.mem_map.1 (mem_of_contains_count h)
    exact ⟨a.space, rfl⟩
  merged_congr := fun _ h => mergeByFunction_congr h

end Query

end BuildRemarks
