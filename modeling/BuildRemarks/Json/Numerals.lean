import BuildRemarks.Json.Flaw
import BuildRemarks.Number
import BuildRemarks.Text.Run

/-!
# Numbers of a JSON text

A number is spelt first and valued then. A numeral without fraction and exponent whose
value fits a word of 64 bits is that integer. Any other is a floating-point number: its
digits are gathered into a word as long as they fit, and the word is scaled by a power
of ten. That is exact for few digits and may miss the nearest number for many.
-/

namespace BuildRemarks.Json

structure Numeral where
  negative : Bool
  whole : List Char
  fraction : Option (List Char)
  /-- The digits of the exponent, and whether a minus sign stands before them. -/
  exponent : Option (Bool × List Char)

def takeDigits (cs : List Char) : List Char × List Char := Text.takeRun Char.isDigit cs

def someDigits (cs : List Char) : Except Flaw (List Char × List Char) :=
  match takeDigits cs with
  | ([], []) => .error .endOfValue
  | ([], _) => .error .invalidNumber
  | found => .ok found

/-- The digits before the point: a zero stands alone. -/
def wholeDigits (cs : List Char) : Except Flaw (List Char × List Char) :=
  match someDigits cs with
  | .ok ('0' :: _ :: _, _) => .error .invalidNumber
  | found => found

def fractionDigits : List Char → Except Flaw (Option (List Char) × List Char)
  | '.' :: cs => (someDigits cs).map fun p => (some p.1, p.2)
  | cs => .ok (none, cs)

def exponentDigits : List Char → Except Flaw (Option (Bool × List Char) × List Char)
  | c :: cs =>
    if c = 'e' ∨ c = 'E' then
      match cs with
      | '+' :: ds => (someDigits ds).map fun p => (some (false, p.1), p.2)
      | '-' :: ds => (someDigits ds).map fun p => (some (true, p.1), p.2)
      | ds => (someDigits ds).map fun p => (some (false, p.1), p.2)
    else .ok (none, c :: cs)
  | [] => .ok (none, [])

def spellUnsigned (negative : Bool) (cs : List Char) : Except Flaw (Numeral × List Char) := do
  let (whole, cs) ← wholeDigits cs
  let (fraction, cs) ← fractionDigits cs
  let (exponent, cs) ← exponentDigits cs
  pure (⟨negative, whole, fraction, exponent⟩, cs)

def spell : List Char → Except Flaw (Numeral × List Char)
  | '-' :: cs => spellUnsigned true cs
  | cs => spellUnsigned false cs

/-- Gathers digits into a word until one no longer fits: the word, the number of the
digits gathered and the number of those left. -/
def gather (word : Nat) : List Char → Nat × Nat × Nat
  | [] => (word, 0, 0)
  | c :: cs =>
    let next := 10 * word + (c.toNat - '0'.toNat)
    if next < UInt64.size then
      let (word, taken, left) := gather next cs
      (word, taken + 1, left)
    else (word, 0, cs.length + 1)

/-- A power of ten with an exponent up to 308. -/
def powerOfTen (e : Nat) : Float := Float.ofScientific 1 false e

/-- `x · 10 ^ e`, in steps that the powers of ten reach; `fuel` bounds their number. -/
def scale : Nat → Float → Int → Except Flaw Float
  | 0, x, _ => .ok x
  | fuel + 1, x, e =>
    if e.natAbs ≤ 308 then
      if 0 ≤ e then
        let y := x * powerOfTen e.natAbs
        if y.isInf then .error .numberOutOfRange else .ok y
      else .ok (x / powerOfTen e.natAbs)
    else if x == 0 then .ok x
    else if 0 ≤ e then .error .numberOutOfRange
    else scale fuel (x / powerOfTen 308) (e + 308)

/-- The greatest exponent that is computed with. -/
def exponentLimit : Int := Int32.maxValue.toInt

def signedScale (negative : Bool) (word : Nat) (e : Int) : Except Flaw Number :=
  (scale 8 (UInt64.ofNat word).toFloat e).map fun x => .float (if negative then -x else x)

def Numeral.scaled (n : Numeral) (word : Nat) (e : Int) : Except Flaw Number :=
  match n.exponent with
  | none => signedScale n.negative word e
  | some (down, digits) =>
    let size : Int := digits.foldl (fun k c => 10 * k + (c.toNat - '0'.toNat)) 0
    if size > exponentLimit then
      if word ≠ 0 ∧ !down then .error .numberOutOfRange
      else .ok (.float (if n.negative then -0.0 else 0.0))
    else
      let sum := if down then e - size else e + size
      signedScale n.negative word (max (-exponentLimit - 1) (min exponentLimit sum))

def Numeral.value (n : Numeral) : Except Flaw Number :=
  let (word, _, left) := gather 0 n.whole
  match n.fraction with
  | some digits =>
    let (word, taken, _) := gather word digits
    n.scaled word (left - taken)
  | none =>
    if n.exponent.isNone ∧ left = 0 ∧ !(n.negative ∧ word = 0) then
      match WordInt.ofInt? (if n.negative then -(word : Int) else word) with
      | some i => .ok (.integer i)
      | none => n.scaled word left
    else n.scaled word left

end BuildRemarks.Json
