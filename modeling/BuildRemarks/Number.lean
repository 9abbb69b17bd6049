/-!
# Numbers of a document

A number in a document is an integer of 64 bits, with or without sign, or a binary
floating-point number.
-/

namespace BuildRemarks

/-- An integer that fits a signed or an unsigned word of 64 bits. -/
structure WordInt where
  val : Int
  lower : Int64.minValue.toInt ≤ val := by decide
  upper : val < UInt64.size := by decide
  deriving DecidableEq

namespace WordInt

def ofInt? (n : Int) : Option WordInt :=
  if h : Int64.minValue.toInt ≤ n ∧ n < UInt64.size then some ⟨n, h.1, h.2⟩ else none

theorem minValue_le_natCast (n : Nat) : Int64.minValue.toInt ≤ n :=
  Int.le_trans (by decide : Int64.minValue.toInt ≤ 0) (Int.natCast_nonneg n)

def ofUInt64 (w : UInt64) : WordInt where
  val := w.toNat
  lower := minValue_le_natCast w.toNat
  upper := Int.ofNat_lt.2 w.toNat_lt_size

def ofUInt32 (w : UInt32) : WordInt where
  val := w.toNat
  lower := minValue_le_natCast w.toNat
  upper := Int.ofNat_lt.2 (Nat.lt_trans w.toNat_lt_size (by decide))

def ofInt64 (w : Int64) : WordInt where
  val := w.toInt
  lower := by rw [Int64.toInt_minValue]; exact w.le_toInt
  upper := by
    have h := w.toInt_lt
    have hs : (UInt64.size : Int) = 18446744073709551616 := rfl
    omega

theorem ofInt?_val (w : WordInt) : ofInt? w.val = some w := by
  simp only [ofInt?, w.lower, w.upper, and_self, dite_true]

end WordInt

inductive Number where
  | integer (n : WordInt)
  | float (x : Float)

end BuildRemarks
