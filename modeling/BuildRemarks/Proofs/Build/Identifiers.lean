import Mathlib.Data.List.Nodup
import BuildRemarks.Build.Record
import BuildRemarks.Proofs.Text.Numerals

/-!
# Identifiers of attached remarks

Attaching gives each remark the identifier of its position and changes nothing else. The position
stands behind the last dash of the identifier, so that remarks at different positions have
different identifiers, whatever their builds were called.
-/

namespace BuildRemarks.Build.Record

def SameButId (r s : Remark) : Prop := s = { r with id := s.id }

/-- The later build has these remarks behind those of the earlier one, changed in nothing but
their identifiers, and differs from it in nothing else. -/
structure Extends (rs : List Remark) (build later : Record) : Prop where
  remarks : ∃ added, later.remarks = build.remarks ++ added ∧ List.Forall₂ SameButId rs added
  rest : later = { build with remarks := later.remarks }

theorem toList_remarkId (id : String) (position : Nat) :
    (remarkId id position).toList = id.toList ++ '-' :: Text.numeral position := by
  rw [remarkId, String.toList_append, String.toList_append, Nat.toString_eq_repr,
    Nat.toList_repr, List.append_assoc]
  rfl

/-- The last dash of an identifier is the one before the position. -/
theorem splitLast?_remarkId (id : String) (position : Nat) :
    Text.splitLast? '-' (remarkId id position).toList =
      some (id.toList, Text.numeral position) :=
  Text.splitLast?_eq_some_iff.2
    ⟨toList_remarkId id position, Text.notMem_numeral (by decide) position⟩

theorem position_eq_of_remarkId_eq {id other : String} {i j : Nat}
    (h : remarkId id i = remarkId other j) : i = j := by
  have hsplit := splitLast?_remarkId id i
  rw [h, splitLast?_remarkId] at hsplit
  have hnumeral : Text.numeral j = Text.numeral i :=
    congrArg Prod.snd (Option.some.inj hsplit)
  rw [← Text.digitsValue_numeral i, ← hnumeral, Text.digitsValue_numeral]

theorem nodup_ids {rs : List Remark}
    (h : ∀ i r, rs[i]? = some r → ∃ id, r.id = remarkId id (i + 1)) :
    (rs.map (·.id)).Nodup := by
  rw [List.nodup_iff_getElem?_ne_getElem?]
  intro i j hij hj heq
  rw [List.length_map] at hj
  have hi : i < rs.length := Nat.lt_trans hij hj
  rw [List.getElem?_map, List.getElem?_map, List.getElem?_eq_getElem hi,
    List.getElem?_eq_getElem hj, Option.map_some, Option.map_some, Option.some.injEq] at heq
  obtain ⟨id, hid⟩ := h i _ (List.getElem?_eq_getElem hi)
  obtain ⟨other, hother⟩ := h j _ (List.getElem?_eq_getElem hj)
  rw [hid, hother] at heq
  have hpositions := position_eq_of_remarkId_eq heq
  omega

/-! ### Attaching -/

theorem sameButId_numbered (id : String) (count : Nat) (rs : List Remark) :
    List.Forall₂ SameButId rs (numbered id count rs) := by
  induction rs generalizing count with
  | nil => exact .nil
  | cons r rs ih => exact .cons rfl (ih (count + 1))

theorem extends_attach (build : Record) (rs : List Remark) :
    Extends rs build (build.attach rs) where
  remarks := ⟨_, rfl, sameButId_numbered build.id build.remarks.length rs⟩
  rest := rfl

theorem id_of_getElem?_numbered {id : String} {count i : Nat} {rs : List Remark} {r : Remark}
    (h : (numbered id count rs)[i]? = some r) : r.id = remarkId id (count + i + 1) := by
  induction rs generalizing count i with
  | nil => exact absurd h (by simp [numbered])
  | cons s rs ih =>
    cases i with
    | zero =>
      rw [numbered, List.getElem?_cons_zero, Option.some.injEq] at h
      rw [← h]
    | succ i =>
      rw [numbered, List.getElem?_cons_succ] at h
      have hcount : count + (i + 1) + 1 = count + 1 + i + 1 := by omega
      rw [ih h, hcount]

/-- A remark that attaching has added has the identifier of its position. -/
theorem id_of_getElem?_attach {build : Record} {rs : List Remark} {i : Nat} {r : Remark}
    (hi : build.remarks.length ≤ i) (h : (build.attach rs).remarks[i]? = some r) :
    r.id = remarkId build.id (i + 1) := by
  rw [attach, List.getElem?_append_right hi] at h
  have hposition : build.remarks.length + (i - build.remarks.length) + 1 = i + 1 := by omega
  rw [id_of_getElem?_numbered h, hposition]

end BuildRemarks.Build.Record
