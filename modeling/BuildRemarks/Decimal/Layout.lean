import BuildRemarks.Decimal.Shortest

/-!
# Written decimals

How a floating-point number is laid out: which magnitudes are written positionally,
and whether a positive exponent has a sign. A number written positionally always has
a digit on both sides of its point.
-/

namespace BuildRemarks.Decimal

/-- A way to write decimals. -/
structure Layout where
  /-- The least exponent of the first digit that is written positionally. -/
  least : Int
  greatest : Int
  /-- A positive exponent is written with its sign. -/
  signedExponent : Bool

def digitsOf (n : Nat) : List Char := Nat.toDigits 10 n

/-- Digits with a point behind the digit of exponent 0, where `top` is the exponent of
the first one. -/
def positional (digits : List Char) (top : Int) : List Char :=
  if top < 0 then ['0', '.'] ++ List.replicate (-top - 1).toNat '0' ++ digits
  else
    let whole := top.toNat + 1
    if digits.length ≤ whole then
      digits ++ List.replicate (whole - digits.length) '0' ++ ['.', '0']
    else digits.take whole ++ ['.'] ++ digits.drop whole

/-- Digits with a point behind the first and an exponent. -/
def Layout.scientific (l : Layout) (digits : List Char) (top : Int) : List Char :=
  let sign := if top < 0 then ['-'] else if l.signedExponent then ['+'] else []
  let fraction := if digits.length ≤ 1 then [] else '.' :: digits.drop 1
  digits.take 1 ++ fraction ++ ['e'] ++ sign ++ digitsOf top.natAbs

def Layout.scaled (l : Layout) (s : Scaled) : List Char :=
  let digits := digitsOf s.digits
  let top := s.exponent + digits.length - 1
  if l.least ≤ top ∧ top ≤ l.greatest then positional digits top
  else l.scientific digits top

def signBit : UInt64 := 0x8000000000000000

def Layout.write (l : Layout) (x : Float) : String :=
  let bits := x.toBits
  let negative := signBit ≤ bits
  let magnitude := if negative then bits - signBit else bits
  let body :=
    if magnitude = 0 then ['0', '.', '0'] else l.scaled (shortest (Float.ofBits magnitude))
  .ofList (if negative then '-' :: body else body)

end BuildRemarks.Decimal
