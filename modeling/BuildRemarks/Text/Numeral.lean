/-!
# Numerals

Decimal numerals as text. A number is read only if its numeral consists of ASCII
digits after an optional sign and its value fits the type asked for.
-/

namespace BuildRemarks.Text

def appendDigit (n : Nat) (c : Char) : Nat := 10 * n + (c.toNat - '0'.toNat)

def digitsValue (cs : List Char) : Nat := cs.foldl appendDigit 0

/-- Reads one or more ASCII digits. -/
def readDigits? (cs : List Char) : Option Nat :=
  if !cs.isEmpty && cs.all Char.isDigit then some (digitsValue cs) else none

theorem readDigits?_eq_some_iff {cs : List Char} {n : Nat} :
    readDigits? cs = some n ↔
      cs ≠ [] ∧ (∀ c ∈ cs, c.isDigit = true) ∧ digitsValue cs = n := by
  simp only [readDigits?, Bool.and_eq_true, Bool.not_eq_true', List.isEmpty_eq_false_iff,
    List.all_eq_true]
  split
  · rename_i h
    simp only [Option.some.injEq]
    exact ⟨fun e => ⟨h.1, fun c hc => h.2 c hc, e⟩, fun e => e.2.2⟩
  · rename_i h
    simp only [reduceCtorEq, false_iff]
    exact fun e => h ⟨e.1, e.2.1⟩

/-- Reads one or more ASCII digits after an optional plus sign. -/
def readNat? : List Char → Option Nat
  | '+' :: cs => readDigits? cs
  | cs => readDigits? cs

/-- Reads digits after an optional sign. -/
def readInt? : List Char → Option Int
  | '-' :: cs => (readDigits? cs).map fun n => -(n : Int)
  | cs => (readNat? cs).map fun n => (n : Int)

def readUInt32? (cs : List Char) : Option UInt32 :=
  (readNat? cs).bind fun n => if n < UInt32.size then some (UInt32.ofNat n) else none

def readUInt64? (cs : List Char) : Option UInt64 :=
  (readNat? cs).bind fun n => if n < UInt64.size then some (UInt64.ofNat n) else none

def readInt64? (cs : List Char) : Option Int64 :=
  (readInt? cs).bind fun n =>
    if Int64.minValue.toInt ≤ n ∧ n ≤ Int64.maxValue.toInt then some (Int64.ofInt n) else none

end BuildRemarks.Text
