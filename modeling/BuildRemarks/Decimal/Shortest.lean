/-!
# Shortest decimals

The decimal with the fewest digits that reads back as a given binary floating-point
number. All arithmetic is on natural numbers: a finite positive number is `m · 2 ^ q`,
and the decimals that read back as it are those of the interval of reals that round to
it, whose ends belong to it when `m` is even. On the grid of the decimals with `k`
digits only the two neighbours of the number can lie in the interval, so `k = 1, 2, …`
are tried in turn; of two neighbours in the interval the nearer is taken, and of two
equally near the one whose last digit is even.
-/

namespace BuildRemarks.Decimal

/-- A finite positive binary number `mantissa · 2 ^ exponent`. `narrow` says that the
number below it is only half as far away as the number above. -/
structure Binary where
  mantissa : Nat
  exponent : Int
  narrow : Bool

/-- A positive decimal `digits · 10 ^ exponent`. -/
structure Scaled where
  digits : Nat
  exponent : Int
  deriving DecidableEq

def fractionSize : Nat := 0x10000000000000

def exponentSize : Nat := 0x800

def Binary.ofBits (bits : UInt64) : Binary :=
  let fraction : Nat := bits.toNat % fractionSize
  let field : Nat := bits.toNat / fractionSize % exponentSize
  if field = 0 then ⟨fraction, -1074, false⟩
  else ⟨fractionSize + fraction, (field : Int) - 1075, fraction = 0 && field > 1⟩

/-- A quarter of the last binary place in the units of the fraction `value · 10 ^ -e`:
the pair `(num, den)` of naturals whose quotient it is. -/
def Binary.quarter (b : Binary) (e : Int) : Nat × Nat :=
  let q := b.exponent - 2
  (Nat.pow 2 q.toNat * Nat.pow 10 (-e).toNat, Nat.pow 2 (-q).toNat * Nat.pow 10 e.toNat)

def Binary.leading (b : Binary) : Int :=
  let guess := ((b.mantissa.log2 : Int) + b.exponent) * 30103 / 100000
  let reaches (e : Int) : Bool :=
    let (num, den) := b.quarter e
    den ≤ 4 * b.mantissa * num
  if reaches (guess + 1) then guess + 1 else if reaches guess then guess else guess - 1

/-- The best decimal of the grid of the multiples of `10 ^ e` that reads back. -/
def Binary.onGrid? (b : Binary) (e : Int) : Option Scaled :=
  let (num, den) := b.quarter e
  let centre := 4 * b.mantissa
  let low := (centre - if b.narrow then 1 else 2) * num
  let high := (centre + 2) * num
  let closed := b.mantissa % 2 = 0
  let below := centre * num / den
  let above := below + 1
  let belowFits := low < below * den ∨ (closed ∧ low = below * den)
  let aboveFits := above * den < high ∨ (closed ∧ above * den = high)
  let toBelow := centre * num - below * den
  let toAbove := above * den - centre * num
  if belowFits ∧ aboveFits then
    if toBelow < toAbove ∨ (toBelow = toAbove ∧ below % 2 = 0) then some ⟨below, e⟩
    else some ⟨above, e⟩
  else if belowFits then some ⟨below, e⟩
  else if aboveFits then some ⟨above, e⟩
  else none

/-- The shortest decimal that reads back: there is always one of seventeen digits. -/
def Binary.shortest (b : Binary) : Scaled :=
  let top := b.leading
  ((List.range 17).findSome? fun (k : Nat) => b.onGrid? (top - k)).getD ⟨b.mantissa, b.exponent⟩

def Scaled.strip (s : Scaled) : Nat → Scaled
  | 0 => s
  | n + 1 => if s.digits % 10 = 0 then Scaled.strip ⟨s.digits / 10, s.exponent + 1⟩ n else s

def shortest (x : Float) : Scaled := (Binary.ofBits x.toBits).shortest.strip 20

end BuildRemarks.Decimal
