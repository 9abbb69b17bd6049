import Mathlib.Data.List.Forall2

/-!
# Words in either case

Lowering the letters of a word gives a name exactly if the word is the name with some of its
letters in the upper case. Only the letters of ASCII have cases here.
-/

namespace BuildRemarks.Text

/-- The letters of a name, each of them in either case. -/
def InAnyCase (name word : List Char) : Prop :=
  List.Forall₂ (fun l c => c = l ∨ c = l.toUpper) name word

theorem toLower_eq_iff {l : Char} (h : l.isLower = true) (c : Char) :
    c.toLower = l ↔ c = l ∨ c = l.toUpper := by
  have hlower : 'a'.val ≤ l.val ∧ l.val ≤ 'z'.val :=
    ((Bool.and_eq_true _ _).mp h).imp of_decide_eq_true of_decide_eq_true
  have hl : 97 ≤ l.val.toNat ∧ l.val.toNat ≤ 122 := by
    simpa [UInt32.le_iff_toNat_le] using hlower
  have hraised : l.toUpper = _ := dif_pos hlower
  rw [hraised]
  -- the two cases of a letter are 32 apart, and no number is that of letters in both
  by_cases hupper : 'A'.val ≤ c.val ∧ c.val ≤ 'Z'.val
  · have hc : 65 ≤ c.val.toNat ∧ c.val.toNat ≤ 90 := by
      simpa [UInt32.le_iff_toNat_le] using hupper
    have hlowered : c.toLower = _ := dif_pos hupper
    rw [hlowered]
    simp only [Char.ext_iff, Char.reduceVal, UInt32.ext_iff, UInt32.toNat_add, UInt32.reduceSub,
      UInt32.reduceToNat]
    omega
  · have hc : ¬ (65 ≤ c.val.toNat ∧ c.val.toNat ≤ 90) := by
      simpa [UInt32.le_iff_toNat_le] using hupper
    have hkept : c.toLower = c := dif_neg hupper
    rw [hkept]
    simp only [Char.ext_iff, Char.reduceVal, UInt32.ext_iff, UInt32.toNat_add, UInt32.reduceSub,
      UInt32.reduceToNat]
    omega

theorem map_toLower_eq_iff {name word : List Char} (h : name.all Char.isLower = true) :
    word.map Char.toLower = name ↔ InAnyCase name word := by
  induction name generalizing word with
  | nil => rw [List.map_eq_nil_iff, InAnyCase, List.forall₂_nil_left_iff]
  | cons l name ih =>
    rw [List.all_cons, Bool.and_eq_true] at h
    obtain ⟨hl, hname⟩ := h
    cases word with
    | nil => exact iff_of_false (by simp) (by rintro ⟨⟩)
    | cons c word =>
      rw [List.map_cons, List.cons.injEq, toLower_eq_iff hl, ih hname, InAnyCase, InAnyCase,
        List.forall₂_cons]

theorem isPrefixOf_map_toLower_iff {name word : List Char} (h : name.all Char.isLower = true) :
    name.isPrefixOf (word.map Char.toLower) = true ↔
      ∃ lead rest, word = lead ++ rest ∧ InAnyCase name lead := by
  rw [List.isPrefixOf_iff_prefix]
  constructor
  · rintro ⟨rest', hsplit⟩
    obtain ⟨lead, rest, hword, hlead, -⟩ := List.map_eq_append_iff.1 hsplit.symm
    exact ⟨lead, rest, hword, (map_toLower_eq_iff h).1 hlead⟩
  · rintro ⟨lead, rest, rfl, hlead⟩
    rw [List.map_append, (map_toLower_eq_iff h).2 hlead]
    exact List.prefix_append name _

end BuildRemarks.Text
