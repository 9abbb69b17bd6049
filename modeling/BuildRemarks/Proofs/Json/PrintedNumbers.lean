import BuildRemarks.Json.Print
import BuildRemarks.Json.Text
import BuildRemarks.Proofs.Text.Numerals
import BuildRemarks.Proofs.Text.Runs

/-!
# Printed integers

An integer of a word is spelt out as a sign and its digits, none of which is left over where the
digits are gathered into a word again.
-/

namespace BuildRemarks.Json

open Text (numeral)

/-- Nothing follows a value, or a comma or a closing bracket does. -/
def Ended (rest : List Char) : Prop :=
  ∀ c, rest.head? = some c → c = ',' ∨ c = ']' ∨ c = '\x7d'

/-! ### Spelling -/

theorem someDigits_numeral (n : Nat) {rest : List Char} (h : Ended rest) :
    someDigits (numeral n ++ rest) = .ok (numeral n, rest) := by
  have hstop : ∀ c, rest.head? = some c → c.isDigit = false := by
    intro c hc
    obtain rfl | rfl | rfl := h c hc <;> rfl
  have hrun : takeDigits (numeral n ++ rest) = (numeral n, rest) :=
    Text.takeRun_eq_iff.2 ⟨rfl, fun _ hc => Text.isDigit_of_mem_numeral hc, hstop⟩
  obtain ⟨d, ds, hdigits, -⟩ := Text.exists_cons_numeral n
  rw [someDigits, hrun, hdigits]

theorem wholeDigits_numeral (n : Nat) {rest : List Char} (h : Ended rest) :
    wholeDigits (numeral n ++ rest) = .ok (numeral n, rest) := by
  rw [wholeDigits, someDigits_numeral n h]
  split
  · rename_i hzero
    have hdigits := (Prod.mk.inj (Except.ok.inj hzero)).1
    cases n with
    | zero => exact absurd hdigits (by simp [numeral])
    | succ n => exact absurd (congrArg List.head? hdigits) (Text.head?_numeral_ne n.succ_pos)
  · rfl

theorem spellUnsigned_numeral (negative : Bool) (n : Nat) {rest : List Char} (h : Ended rest) :
    spellUnsigned negative (numeral n ++ rest) =
      .ok (⟨negative, numeral n, none, none⟩, rest) := by
  have hfraction : fractionDigits rest = .ok (none, rest) := by
    cases rest with
    | nil => rfl
    | cons c cs => obtain rfl | rfl | rfl := h c rfl <;> rfl
  have hexponent : exponentDigits rest = .ok (none, rest) := by
    cases rest with
    | nil => rfl
    | cons c cs => obtain rfl | rfl | rfl := h c rfl <;> rfl
  rw [spellUnsigned, wholeDigits_numeral n h]
  simp only [bind, Except.bind, hfraction, hexponent]
  rfl

/-! ### Values -/

theorem le_foldl_appendDigit (word : Nat) (cs : List Char) :
    word ≤ cs.foldl Text.appendDigit word := by
  induction cs generalizing word with
  | nil => exact Nat.le_refl word
  | cons c cs ih =>
    have hstep : word ≤ Text.appendDigit word c := by
      rw [Text.appendDigit]
      omega
    exact Nat.le_trans hstep (ih _)

/-- Digits whose value fits a word are all gathered. -/
theorem gather_eq {word : Nat} {cs : List Char}
    (h : cs.foldl Text.appendDigit word < UInt64.size) :
    gather word cs = (cs.foldl Text.appendDigit word, cs.length, 0) := by
  induction cs generalizing word with
  | nil => rfl
  | cons c cs ih =>
    have hnext : Text.appendDigit word c < UInt64.size :=
      Nat.lt_of_le_of_lt (le_foldl_appendDigit _ cs) h
    have hrest := ih h
    rw [Text.appendDigit] at hnext hrest
    rw [gather]
    simp only [if_pos hnext, hrest]
    rfl

theorem gather_numeral {n : Nat} (h : n < UInt64.size) :
    gather 0 (numeral n) = (n, (numeral n).length, 0) := by
  have hvalue : (numeral n).foldl Text.appendDigit 0 = n := Text.digitsValue_numeral n
  rw [gather_eq (hvalue.symm ▸ h), hvalue]

/-- The digits of an integer, behind a minus sign if it is negative. -/
def signedNumeral (k : Int) : List Char :=
  if k < 0 then '-' :: numeral k.natAbs else numeral k.natAbs

theorem toList_printNumber (i : WordInt) :
    (printNumber (.integer i)).toList = signedNumeral i.val := by
  rw [printNumber, Int.toString_eq_repr, Int.repr_eq_if, signedNumeral]
  by_cases h : i.val < 0
  · have habs : (-i.val).toNat = i.val.natAbs := by omega
    rw [if_neg (Int.not_le.2 h), if_pos h, habs, String.toList_append, Nat.toList_repr]
    rfl
  · have habs : i.val.toNat = i.val.natAbs := by omega
    rw [if_pos (Int.not_lt.1 h), if_neg h, habs, Nat.toList_repr]
    rfl

theorem spell_signedNumeral (k : Int) {rest : List Char} (h : Ended rest) :
    spell (signedNumeral k ++ rest) =
      .ok (⟨decide (k < 0), numeral k.natAbs, none, none⟩, rest) := by
  by_cases hk : k < 0
  · rw [signedNumeral, if_pos hk, decide_eq_true hk]
    exact spellUnsigned_numeral true k.natAbs h
  · rw [signedNumeral, if_neg hk, decide_eq_false hk, ← spellUnsigned_numeral false k.natAbs h]
    -- a numeral begins with a digit, so no sign is taken off
    obtain ⟨d, ds, hdigits, hdigit⟩ := Text.exists_cons_numeral k.natAbs
    rw [hdigits, List.cons_append, spell.eq_def]
    split
    · rename_i heq
      obtain rfl := (List.cons.inj heq).1
      exact absurd hdigit (by decide)
    · rfl

theorem value_numeral (i : WordInt) :
    Numeral.value ⟨decide (i.val < 0), numeral i.val.natAbs, none, none⟩ =
      .ok (.integer i) := by
  have hfits : i.val.natAbs < UInt64.size := by
    have hlower := i.lower
    have hupper := i.upper
    have hmin : Int64.minValue.toInt = -9223372036854775808 := rfl
    have hsize : UInt64.size = 18446744073709551616 := rfl
    omega
  have hval : (if decide (i.val < 0) = true then -(i.val.natAbs : Int) else i.val.natAbs) =
      i.val := by
    split
    · rename_i hneg
      have hlt := of_decide_eq_true hneg
      omega
    · rename_i hneg
      have hle := of_decide_eq_false (Bool.eq_false_iff.2 hneg)
      omega
  have hzero : ¬ (decide (i.val < 0) = true ∧ i.val.natAbs = 0) := by
    rintro ⟨hneg, hnone⟩
    have hlt := of_decide_eq_true hneg
    omega
  rw [Numeral.value, gather_numeral hfits]
  simp only [hval, WordInt.ofInt?_val, decide_eq_false hzero, Bool.not_false, and_self,
    Option.isNone_none, if_true]

theorem numberPiece_signedNumeral (i : WordInt) {rest : List Char} (h : Ended rest) :
    numberPiece (signedNumeral i.val ++ rest) = (.number (.integer i), some rest) := by
  rw [numberPiece, spell_signedNumeral i.val h]
  simp only [value_numeral]

end BuildRemarks.Json
