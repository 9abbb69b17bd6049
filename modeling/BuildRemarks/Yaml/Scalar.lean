import BuildRemarks.Decimal.Nearest
import BuildRemarks.Json.Strings
import BuildRemarks.Text.Numeral
import BuildRemarks.Text.Run
import BuildRemarks.Yaml.Token
import BuildRemarks.Yaml.Value

/-!
# The values of scalars

A plain scalar is what it looks like: null, a truth value, an integer, a floating-point
number, or else a string. A tag of the core types asks for one of these, and the scalar
must fit it. Digits behind a leading zero are no number, and an integer between 64 and
128 bits is refused.
-/

namespace BuildRemarks.Yaml

def readNull? (s : String) : Option Unit :=
  if s = "null" ∨ s = "Null" ∨ s = "NULL" ∨ s = "~" then some () else none

def readBool? (s : String) : Option Bool :=
  if s = "true" ∨ s = "True" ∨ s = "TRUE" then some true
  else if s = "false" ∨ s = "False" ∨ s = "FALSE" then some false
  else none

def digit? (base : Nat) (c : Char) : Option Nat :=
  (Json.hexDigit? c).filter (· < base)

def magnitude? (base : Nat) (cs : List Char) : Option Nat :=
  if cs.isEmpty then none
  else (cs.mapM (digit? base)).map fun ds => ds.foldl (fun n d => base * n + d) 0

def dropSign : List Char → List Char
  | '-' :: cs | '+' :: cs => cs
  | cs => cs

/-- Digits behind a leading zero, with or without a sign. -/
def isPadded (cs : List Char) : Bool :=
  match dropSign cs with
  | '0' :: d :: ds => (d :: ds).all Char.isDigit
  | _ => false

/-- The magnitude of an integer without sign: decimal, or behind a mark of its base. -/
def unsigned? : List Char → Option Nat
  | '0' :: 'x' :: cs => magnitude? 16 cs
  | '0' :: 'o' :: cs => magnitude? 8 cs
  | '0' :: 'b' :: cs => magnitude? 2 cs
  | cs => if isPadded cs then none else magnitude? 10 cs

def readInt? : List Char → Option Int
  | '+' :: cs => (unsigned? cs).map fun n => (n : Int)
  | '-' :: cs => (unsigned? cs).map fun n => -(n : Int)
  | cs => (unsigned? cs).map fun n => (n : Int)

/-- The integer fits 128 bits, with or without sign. -/
def isWide (n : Int) : Bool := decide (-(1 <<< 127 : Nat) ≤ n) && decide (n < (1 <<< 128 : Nat))

/-- The parts of a decimal number: its digits as one number, and its exponent. -/
def decimalParts? (cs : List Char) : Option (Nat × Int) := do
  let (whole, cs) := Text.takeRun Char.isDigit cs
  let (fraction, cs) := match cs with
    | '.' :: cs => Text.takeRun Char.isDigit cs
    | cs => ([], cs)
  if whole.isEmpty && fraction.isEmpty then none
  else
    let digits := Text.digitsValue (whole ++ fraction)
    match cs with
    | [] => some (digits, -fraction.length)
    | c :: cs =>
      if c = 'e' ∨ c = 'E' then
        let size ← Text.readDigits? (dropSign cs)
        let exponent : Int := if cs.head? = some '-' then -size else size
        some (digits, exponent - fraction.length)
      else none

def readDecimal? (cs : List Char) : Option Float := do
  let (digits, exponent) ← decimalParts? (dropSign cs)
  let x := Decimal.nearest digits exponent
  if x.isInf then none else some (if cs.head? = some '-' then -x else x)

def readFloat? (cs : List Char) : Option Float :=
  let bare := match cs with
    | '+' :: cs => cs
    | cs => cs
  if cs.head? = some '+' ∧ (bare.head? = some '+' ∨ bare.head? = some '-') then none
  else if bare = ".inf".toList ∨ bare = ".Inf".toList ∨ bare = ".INF".toList then
    some (1 / 0)
  else if cs = "-.inf".toList ∨ cs = "-.Inf".toList ∨ cs = "-.INF".toList then
    some (-1 / 0)
  else if cs = ".nan".toList ∨ cs = ".NaN".toList ∨ cs = ".NAN".toList then some (0 / 0)
  else readDecimal? bare

def plainValue? (s : String) : Option Value :=
  let cs := s.toList
  if s = "" ∨ (readNull? s).isSome then some .null
  else match readBool? s with
    | some b => some (.bool b)
    | none =>
      let float :=
        if isPadded cs then .string s
        else match readFloat? cs with
          | some x => .number (.float x)
          | none => .string s
      match readInt? cs with
      | some n =>
        match WordInt.ofInt? n with
        | some i => some (.number (.integer i))
        | none => if isWide n then none else some float
      | none => some float

def coreLead : Octets := octetsOf "tag:yaml.org,2002:".toList

def coreTag (name : String) : Octets := coreLead ++ octetsOf name.toList

def taggedInt? (s : String) : Option Value := do
  let n ← readInt? s.toList
  let i ← WordInt.ofInt? n
  some (.number (.integer i))

/-- The value of a scalar whose tag, if any, is not its own. -/
def scalarValue? (tag : Option Octets) (s : String) (plain : Bool) : Option Value :=
  match tag with
  | none => if plain then plainValue? s else some (.string s)
  | some tag =>
    if tag = coreTag "bool" then (readBool? s).map .bool
    else if tag = coreTag "int" then taggedInt? s
    else if tag = coreTag "float" then (readFloat? s.toList).map fun x => .number (.float x)
    else if tag = coreTag "null" then (readNull? s).map fun _ => .null
    else if plain && tag.head? = some 0x21 then plainValue? s
    else some (.string s)

end BuildRemarks.Yaml
