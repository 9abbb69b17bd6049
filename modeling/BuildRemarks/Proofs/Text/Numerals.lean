import BuildRemarks.Proofs.Text.Searching
import BuildRemarks.Text.DecimalDigit
import BuildRemarks.Text.Numeral

/-!
# Numerals of a given width

A number is read from a run of digits exactly if all of them are ASCII and they denote it; the
decimal numeral of a number is such a run.
-/

namespace BuildRemarks.Text

/-- Digits in front leave no place for a sign. -/
theorem readNat?_of_digits {cs : List Char} (h : ∀ c ∈ cs, isDecimalDigit c = true) :
    readNat? cs = readDigits? cs := by
  rw [readNat?.eq_def]
  split
  · exact absurd (h '+' List.mem_cons_self) (by decide)
  · rfl

theorem readUInt32?_eq_some_iff {cs : List Char} (hne : cs ≠ [])
    (h : ∀ c ∈ cs, isDecimalDigit c = true) {n : UInt32} :
    readUInt32? cs = some n ↔
      (∀ c ∈ cs, c.isDigit = true) ∧ digitsValue cs = n.toNat := by
  rw [readUInt32?, readNat?_of_digits h, Option.bind_eq_some_iff]
  constructor
  · rintro ⟨k, hk, hn⟩
    obtain ⟨-, hdigit, rfl⟩ := readDigits?_eq_some_iff.1 hk
    split at hn
    · rename_i hlt
      rw [← Option.some.inj hn]
      exact ⟨hdigit, (UInt32.toNat_ofNat_of_lt' hlt).symm⟩
    · exact absurd hn (by simp)
  · rintro ⟨hdigit, hval⟩
    refine ⟨digitsValue cs, readDigits?_eq_some_iff.2 ⟨hne, hdigit, rfl⟩, ?_⟩
    rw [hval, if_pos n.toNat_lt_size, UInt32.ofNat_toNat]

theorem toNat_of_isDigit {c : Char} (h : c.isDigit = true) : 48 ≤ c.toNat ∧ c.toNat ≤ 57 := by
  simp only [Char.isDigit, Bool.and_eq_true, decide_eq_true_eq, ge_iff_le,
    UInt32.le_iff_toNat_le] at h
  exact h

theorem isDecimalDigit_of_isDigit {c : Char} (h : c.isDigit = true) :
    isDecimalDigit c = true := by
  have hc := toNat_of_isDigit h
  have hlt : c.toNat < 0x80 := by omega
  rw [isDecimalDigit_of_ascii c hlt, h]

theorem isBlank_of_isDigit {c : Char} (h : c.isDigit = true) : isBlank c = false := by
  have hc := toNat_of_isDigit h
  exact isBlank_of_visible (by omega) (by omega)

/-- The decimal numeral of a number. -/
def numeral (n : Nat) : List Char := Nat.toDigits 10 n

theorem numeral_ne_nil (n : Nat) : numeral n ≠ [] := Nat.toDigits_ne_nil

theorem isDigit_of_mem_numeral {n : Nat} {c : Char} (h : c ∈ numeral n) : c.isDigit = true :=
  Nat.isDigit_of_mem_toDigits (by decide) (by decide) h

theorem notMem_numeral {c : Char} (hc : c.isDigit = false) (n : Nat) : c ∉ numeral n :=
  fun hmem => absurd (isDigit_of_mem_numeral hmem) (by simp [hc])

theorem getLast?_numeral (n : Nat) :
    ∃ c, (numeral n).getLast? = some c ∧ c.isDigit = true :=
  ⟨_, List.getLast?_eq_some_getLast (numeral_ne_nil n),
    isDigit_of_mem_numeral (List.getLast_mem (numeral_ne_nil n))⟩

theorem exists_cons_numeral (n : Nat) : ∃ d ds, numeral n = d :: ds ∧ d.isDigit = true := by
  obtain ⟨d, ds, hdigits⟩ := List.exists_cons_of_ne_nil (numeral_ne_nil n)
  have hmem : d ∈ numeral n := hdigits ▸ List.mem_cons_self
  exact ⟨d, ds, hdigits, isDigit_of_mem_numeral hmem⟩

theorem digitsValue_numeral (n : Nat) : digitsValue (numeral n) = n :=
  Nat.ofDigitChars_ten_toDigits

/-- No numeral but that of zero begins with a zero. -/
theorem head?_numeral_ne {n : Nat} (h : 0 < n) : (numeral n).head? ≠ some '0' := by
  induction n using Nat.strongRecOn with
  | ind n ih =>
    by_cases hlt : n < 10
    · have hall : ∀ n < 10, 0 < n → (numeral n).head? ≠ some '0' := by decide
      exact hall n hlt h
    · have hsplit : numeral n = numeral (n / 10) ++ [(n % 10).digitChar] :=
        Nat.toDigits_of_base_le (by decide) (by omega)
      have hfront := ih (n / 10) (by omega) (by omega)
      obtain ⟨d, ds, hdigits, -⟩ := exists_cons_numeral (n / 10)
      rw [hdigits] at hfront
      rw [hsplit, hdigits]
      exact hfront

theorem readDigits?_numeral (n : Nat) : readDigits? (numeral n) = some n :=
  readDigits?_eq_some_iff.2
    ⟨numeral_ne_nil n, fun _ h => isDigit_of_mem_numeral h, digitsValue_numeral n⟩

theorem isDecimalDigit_of_mem_numeral {n : Nat} {c : Char} (h : c ∈ numeral n) :
    isDecimalDigit c = true :=
  isDecimalDigit_of_isDigit (isDigit_of_mem_numeral h)

theorem readNat?_numeral (n : Nat) : readNat? (numeral n) = some n := by
  rw [readNat?_of_digits fun _ h => isDecimalDigit_of_mem_numeral h, readDigits?_numeral]

theorem readUInt32?_numeral (n : UInt32) : readUInt32? (numeral n.toNat) = some n := by
  rw [readUInt32?, readNat?_numeral, Option.bind_some, if_pos n.toNat_lt_size,
    UInt32.ofNat_toNat]

theorem readUInt64?_numeral (n : UInt64) : readUInt64? (numeral n.toNat) = some n := by
  rw [readUInt64?, readNat?_numeral, Option.bind_some, if_pos n.toNat_lt_size,
    UInt64.ofNat_toNat]

end BuildRemarks.Text
