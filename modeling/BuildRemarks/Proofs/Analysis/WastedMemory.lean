import BuildRemarks.Analysis.Analyze
import BuildRemarks.Proofs.Text.SignedNumerals
import BuildRemarks.Proofs.Text.Trimming
import Mathlib.Algebra.Order.BigOperators.Group.List
import Mathlib.Algebra.Ring.Int.Defs

/-!
# The sum of wasted memory

The sizes that the remarks about `alloca` state are added up in words of 64 bits, each step held
within their bounds. Sizes of one sign move the sum in one direction, so that it leaves the bounds
at most once and its end is the exact sum held within them, in whatever order the sizes come.
Sizes of both signs give the exact sum as long as no sum on the way leaves the bounds.
-/

namespace BuildRemarks.Analysis

open Text (InWord)

/-! ### Sums within bounds -/

/-- The integer of 64 bits that is nearest. -/
def clamp (v : Int) : Int := max Int64.minValue.toInt (min Int64.maxValue.toInt v)

/-- A step of the sum. -/
def clampedAdd (s n : Int) : Int := clamp (s + n)

def SameSign (ns : List Int) : Prop := (∀ n ∈ ns, 0 ≤ n) ∨ (∀ n ∈ ns, n ≤ 0)

theorem clamp_of_inWord {v : Int} (h : InWord v) : clamp v = v := by
  rw [clamp, min_eq_right h.2, max_eq_right h.1]

theorem inWord_clamp (v : Int) : InWord (clamp v) := by
  have hbounds : Int64.minValue.toInt ≤ Int64.maxValue.toInt := by decide
  rw [InWord, clamp]
  omega

theorem inWord_zero : InWord 0 := by decide

theorem SameSign.of_subset {ns ms : List Int} (h : SameSign ns) (hsub : ms ⊆ ns) : SameSign ms :=
  h.imp (fun h n hn => h n (hsub hn)) fun h n hn => h n (hsub hn)

theorem SameSign.sum {n : Int} {ns : List Int} (h : SameSign (n :: ns)) :
    (0 ≤ n ∧ 0 ≤ ns.sum) ∨ (n ≤ 0 ∧ ns.sum ≤ 0) := by
  rcases h with h | h
  · exact Or.inl ⟨h n List.mem_cons_self,
      List.sum_nonneg fun m hm => h m (List.mem_cons_of_mem n hm)⟩
  · have hle := List.sum_le_card_nsmul ns 0 fun m hm => h m (List.mem_cons_of_mem n hm)
    rw [nsmul_zero] at hle
    exact Or.inr ⟨h n List.mem_cons_self, hle⟩

/-- Once the sum is held at a bound it stays there. -/
theorem clamp_clampedAdd {s n t : Int} (hs : InWord s)
    (h : (0 ≤ n ∧ 0 ≤ t) ∨ (n ≤ 0 ∧ t ≤ 0)) :
    clamp (clampedAdd s n + t) = clamp (s + (n + t)) := by
  obtain ⟨hmin, hmax⟩ := hs
  simp only [clampedAdd, clamp]
  omega

theorem foldl_clampedAdd_of_sameSign {ns : List Int} (h : SameSign ns) {s : Int} (hs : InWord s) :
    ns.foldl clampedAdd s = clamp (s + ns.sum) := by
  induction ns generalizing s with
  | nil => rw [List.foldl_nil, List.sum_nil, add_zero, clamp_of_inWord hs]
  | cons n ns ih =>
    have hstep : InWord (clampedAdd s n) := inWord_clamp (s + n)
    rw [List.foldl_cons, ih (h.of_subset (List.subset_cons_self n ns)) hstep, List.sum_cons,
      clamp_clampedAdd hs h.sum]

theorem foldl_clampedAdd_of_prefixes {ns : List Int} {s : Int}
    (h : ∀ k, InWord (s + (ns.take k).sum)) : ns.foldl clampedAdd s = s + ns.sum := by
  induction ns generalizing s with
  | nil => rw [List.foldl_nil, List.sum_nil, add_zero]
  | cons n ns ih =>
    have hstep : clampedAdd s n = s + n := by
      have hone := h 1
      rw [List.take_succ_cons, List.take_zero, List.sum_cons, List.sum_nil, add_zero] at hone
      exact clamp_of_inWord hone
    have hrest : ∀ k, InWord (s + n + (ns.take k).sum) := by
      intro k
      have hnext := h (k + 1)
      rwa [List.take_succ_cons, List.sum_cons, ← add_assoc] at hnext
    rw [List.foldl_cons, hstep, ih hrest, List.sum_cons, add_assoc]

theorem toInt_foldl_addClamped (s : Int64) (ws : List Int64) :
    (ws.foldl addClamped s).toInt = (ws.map Int64.toInt).foldl clampedAdd s.toInt := by
  induction ws generalizing s with
  | nil => rfl
  | cons w ws ih =>
    have hstep : (addClamped s w).toInt = clampedAdd s.toInt w.toInt := toInt_addClamped s w
    rw [List.foldl_cons, ih, hstep, List.map_cons, List.foldl_cons]

/-! ### The sizes that remarks state -/

/-- The text is, between blanks, a numeral of the integer. -/
def States (s : String) (v : Int) : Prop :=
  ∃ n : Text.SignedNumeral, Text.TrimsTo s.toList n.text ∧ n.value = v

/-- The text states an integer of 64 bits. -/
def StatesSize (s : String) : Prop := ∃ v, States s v ∧ InWord v

/-- The message of the remark holds the word. -/
def AboutAlloca (r : Remark) : Prop := "alloca".toList <:+: r.message.toList

theorem readInt64?_trim_eq_some_iff {s : String} {w : Int64} :
    Text.readInt64? (Text.trim s.toList) = some w ↔ States s w.toInt := by
  rw [Text.readInt64?_eq_some_iff]
  refine exists_congr fun n => and_congr_left' ?_
  rw [eq_comm, Text.trim_eq_iff]

theorem isSome_readInt64?_iff {s : String} :
    (Text.readInt64? (Text.trim s.toList)).isSome = true ↔ StatesSize s := by
  rw [Option.isSome_iff_exists]
  constructor
  · rintro ⟨w, hw⟩
    exact ⟨w.toInt, readInt64?_trim_eq_some_iff.1 hw, Text.inWord_toInt w⟩
  · rintro ⟨v, hstates, hin⟩
    rw [← Text.toInt_ofInt_of_inWord hin] at hstates
    exact ⟨Int64.ofInt v, readInt64?_trim_eq_some_iff.2 hstates⟩

instance (s : String) : Decidable (StatesSize s) := decidable_of_iff _ isSome_readInt64?_iff

instance (r : Remark) : Decidable (AboutAlloca r) := decidable_of_iff _ (Text.occursIn_iff _ _)

theorem States.unique {s : String} {v w : Int} (hv : States s v) (hw : States s w) : v = w := by
  obtain ⟨m, hm, rfl⟩ := hv
  obtain ⟨n, hn, rfl⟩ := hw
  have htext : m.text = n.text := by rw [← Text.trim_eq_iff.2 hm, ← Text.trim_eq_iff.2 hn]
  rw [Text.SignedNumeral.text_injective htext]

/-- The texts that count: those arguments of remarks about `alloca` that state a size. -/
def sizeTexts (rs : List Remark) : List String :=
  (rs.filter fun r => AboutAlloca r).flatMap fun r => r.args.strings.filter fun s => StatesSize s

/-- The integers are those that the texts that count state, in their order. -/
def Sizes (rs : List Remark) (ns : List Int) : Prop := List.Forall₂ States (sizeTexts rs) ns

theorem sizes_of_strings (ss : List String) :
    List.Forall₂ States (ss.filter fun s => StatesSize s)
      ((ss.filterMap fun s => Text.readInt64? (Text.trim s.toList)).map Int64.toInt) := by
  induction ss with
  | nil => exact .nil
  | cons s ss ih =>
    cases hread : Text.readInt64? (Text.trim s.toList) with
    | none =>
      have hnot : ¬ StatesSize s := by
        rw [← isSome_readInt64?_iff, hread]
        exact Bool.false_ne_true
      simp only [List.filter_cons, List.filterMap_cons, hread, hnot, decide_false,
        Bool.false_eq_true, if_false]
      exact ih
    | some w =>
      have hsize : StatesSize s := isSome_readInt64?_iff.1 (by rw [hread]; rfl)
      simp only [List.filter_cons, List.filterMap_cons, hread, hsize, decide_true, if_true,
        List.map_cons]
      exact .cons (readInt64?_trim_eq_some_iff.1 hread) ih

theorem sizes_allocaSizes (rs : List Remark) :
    Sizes rs ((allocaSizes rs).map Int64.toInt) := by
  have hfilter : (rs.filter fun r => Text.holds r.message "alloca") =
      rs.filter fun r => AboutAlloca r :=
    List.filter_congr fun r _ => Bool.eq_iff_iff.2 (by
      rw [Text.holds, Text.occursIn_iff, decide_eq_true_eq, AboutAlloca])
  rw [Sizes, sizeTexts, allocaSizes, hfilter]
  induction rs.filter fun r => AboutAlloca r with
  | nil => exact .nil
  | cons r rs ih =>
    rw [List.flatMap_cons, List.flatMap_cons, List.map_append]
    exact List.rel_append (sizes_of_strings r.args.strings) ih

theorem sizes_iff {rs : List Remark} {ns : List Int} :
    Sizes rs ns ↔ ns = (allocaSizes rs).map Int64.toInt := by
  constructor
  · intro h
    have hunique : Relator.RightUnique States := fun _ _ _ hv hw => hv.unique hw
    exact List.right_unique_forall₂' hunique h (sizes_allocaSizes rs)
  · rintro rfl
    exact sizes_allocaSizes rs

/-! ### Another order -/

/-- The same texts in another order, under the same message. -/
def SameTexts (r other : Remark) : Prop :=
  other.message = r.message ∧ r.args.strings.Perm other.args.strings

/-- The remarks in another order, and the texts of each of them in another order. -/
def Reordered (rs others : List Remark) : Prop :=
  ∃ between, rs.Perm between ∧ List.Forall₂ SameTexts between others

theorem perm_allocaSizes_of_perm {rs others : List Remark} (h : rs.Perm others) :
    (allocaSizes rs).Perm (allocaSizes others) :=
  (h.filter _).flatMap_right _

theorem perm_allocaSizes_of_sameTexts {rs others : List Remark}
    (h : List.Forall₂ SameTexts rs others) : (allocaSizes rs).Perm (allocaSizes others) := by
  induction h with
  | nil => exact .nil
  | @cons r other rs others hr _ ih =>
    obtain ⟨hmessage, hstrings⟩ := hr
    simp only [allocaSizes, List.filter_cons, hmessage]
    split
    · exact (hstrings.filterMap _).append ih
    · exact ih

theorem Reordered.perm_allocaSizes {rs others : List Remark} (h : Reordered rs others) :
    (allocaSizes rs).Perm (allocaSizes others) := by
  obtain ⟨between, hperm, htexts⟩ := h
  exact (perm_allocaSizes_of_perm hperm).trans (perm_allocaSizes_of_sameTexts htexts)

/-! ### The wasted memory of a build -/

theorem toInt_wasted (b : Build.Record) :
    (analyze b).memory.wasted.toInt =
      ((allocaSizes b.remarks).map Int64.toInt).foldl clampedAdd 0 :=
  toInt_foldl_addClamped 0 (allocaSizes b.remarks)

theorem toInt_wasted_of_sameSign {b : Build.Record}
    (h : SameSign ((allocaSizes b.remarks).map Int64.toInt)) :
    (analyze b).memory.wasted.toInt = clamp ((allocaSizes b.remarks).map Int64.toInt).sum := by
  rw [toInt_wasted, foldl_clampedAdd_of_sameSign h inWord_zero, zero_add]

/-- What a build wastes, by the sizes `ns` that its remarks state. -/
structure Wastes (b : Build.Record) (ns : List Int) : Prop where
  /-- While all sums on the way are of 64 bits the sum is exact. -/
  exact_of_prefixes : (∀ k, InWord (ns.take k).sum) → (analyze b).memory.wasted.toInt = ns.sum
  min_of_nonneg : (∀ n ∈ ns, 0 ≤ n) →
    (analyze b).memory.wasted.toInt = min ns.sum Int64.maxValue.toInt
  max_of_nonpos : (∀ n ∈ ns, n ≤ 0) →
    (analyze b).memory.wasted.toInt = max ns.sum Int64.minValue.toInt
  /-- The order of sizes of one sign does not matter. -/
  of_reordered : SameSign ns → ∀ other : Build.Record, Reordered b.remarks other.remarks →
    (analyze other).memory.wasted = (analyze b).memory.wasted
  /-- Remarks with other messages do not matter, nor texts that state no integer of 64 bits. -/
  of_sizeTexts : ∀ other : Build.Record, sizeTexts other.remarks = sizeTexts b.remarks →
    (analyze other).memory.wasted = (analyze b).memory.wasted

/-- The remarks of a build state one list of sizes, and the build wastes their sum within words. -/
theorem exists_sizes_wastes (b : Build.Record) :
    ∃ ns, (∀ ms, Sizes b.remarks ms ↔ ms = ns) ∧ Wastes b ns := by
  refine ⟨(allocaSizes b.remarks).map Int64.toInt, fun ms => sizes_iff, ?_⟩
  constructor
  case exact_of_prefixes =>
    intro h
    have hrun := foldl_clampedAdd_of_prefixes (s := 0) (by simpa only [zero_add] using h)
    rw [toInt_wasted, hrun, zero_add]
  case min_of_nonneg =>
    intro h
    have hsum := List.sum_nonneg h
    have hmin : Int64.minValue.toInt ≤ 0 := by decide
    have hmax : 0 ≤ Int64.maxValue.toInt := by decide
    rw [toInt_wasted_of_sameSign (Or.inl h), clamp]
    omega
  case max_of_nonpos =>
    intro h
    have hsum := List.sum_le_card_nsmul _ 0 h
    rw [nsmul_zero] at hsum
    have hmin : Int64.minValue.toInt ≤ 0 := by decide
    have hmax : 0 ≤ Int64.maxValue.toInt := by decide
    rw [toInt_wasted_of_sameSign (Or.inr h), clamp]
    omega
  case of_reordered =>
    intro h other hreordered
    have hperm := hreordered.perm_allocaSizes.map Int64.toInt
    refine Int64.toInt_inj.1 ?_
    rw [toInt_wasted_of_sameSign h, toInt_wasted_of_sameSign (h.of_subset hperm.symm.subset),
      hperm.sum_eq]
  case of_sizeTexts =>
    intro other htexts
    have hsizes := sizes_allocaSizes other.remarks
    rw [Sizes, htexts, ← Sizes, sizes_iff] at hsizes
    refine Int64.toInt_inj.1 ?_
    rw [toInt_wasted, toInt_wasted, hsizes]

end BuildRemarks.Analysis
