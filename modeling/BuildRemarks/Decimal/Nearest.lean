/-!
# Reading decimals

The binary floating-point number nearest to a decimal, for exponents of any size:
beyond a few hundred places every decimal is rounded to zero or to infinity, so only
exponents near the range of the type are computed with.
-/

namespace BuildRemarks.Decimal

/-- The exponents outside which a decimal with first digit there rounds to zero or to
infinity. -/
def exponentBound : Int := 400

/-- The number nearest to `digits · 10 ^ exponent`. -/
def nearest (digits : Nat) (exponent : Int) : Float :=
  if digits = 0 then 0
  else
    let top := exponent + (Nat.toDigits 10 digits).length
    if top > exponentBound then 1 / 0
    else if top < -exponentBound then 0
    else if exponent < 0 then Float.ofScientific digits true exponent.natAbs
    else Float.ofScientific digits false exponent.natAbs

end BuildRemarks.Decimal
