import BuildRemarks.Decimal.Layout
import BuildRemarks.Number

/-!
# YAML values

The values that the nodes of a document have. Two keys of a mapping are the same if they
are equal as values, whatever the order of their own entries; there is one NaN, and zero
has no sign.
-/

namespace BuildRemarks.Yaml

inductive Value where
  | null
  | bool (b : Bool)
  | number (n : Number)
  | string (s : String)
  | sequence (items : List Value)
  | mapping (entries : List (Value × Value))
  /-- A value with a tag of its own, given without its exclamation mark. -/
  | tagged (tag : String) (value : Value)

/-- Equality of numbers as keys. -/
def sameNumber : Number → Number → Bool
  | .integer m, .integer n => m.val == n.val
  | .float x, .float y => x == y || x.isNaN && y.isNaN
  | _, _ => false

/-- A tag without an exclamation mark that it starts with, unless that is all. -/
def bareTag (tag : String) : List Char :=
  match tag.toList with
  | '!' :: c :: cs => c :: cs
  | cs => cs

namespace Value

mutual

/-- Equality of values as keys. -/
def same : Value → Value → Bool
  | null, null => true
  | bool a, bool b => a == b
  | number m, number n => sameNumber m n
  | string s, string t => s == t
  | sequence xs, sequence ys => sameItems xs ys
  | mapping es, mapping fs => es.length == fs.length && sameEntries es fs
  | tagged s v, tagged t w => bareTag s == bareTag t && same v w
  | _, _ => false

def sameItems : List Value → List Value → Bool
  | [], [] => true
  | x :: xs, y :: ys => same x y && sameItems xs ys
  | _, _ => false

/-- Every entry of the first mapping is one of the second. -/
def sameEntries : List (Value × Value) → List (Value × Value) → Bool
  | [], _ => true
  | (k, v) :: es, fs => fs.any (fun f => same k f.1 && same v f.2) && sameEntries es fs

end

def untagged : Value → Value
  | tagged _ v => v.untagged
  | v => v

/-- The text of a string, whatever its tags. -/
def text? (v : Value) : Option String :=
  match v.untagged with
  | string s => some s
  | _ => none

/-- The entries of a mapping, whatever its tags. -/
def entries? (v : Value) : Option (List (Value × Value)) :=
  match v.untagged with
  | mapping es => some es
  | _ => none

/-- The value of a key that is a string without tags. -/
def entry? (entries : List (Value × Value)) (name : String) : Option Value :=
  (entries.find? fun e => match e.1 with
    | string s => s == name
    | _ => false).map (·.2)

end Value

/-- Floating-point numbers as text: positional from `1e-5` up to below `1e16`. -/
def floatLayout : Decimal.Layout := ⟨-5, 15, false⟩

def floatText (x : Float) : String :=
  if x.isNaN then ".nan"
  else if x.isInf then if x < 0 then "-.inf" else ".inf"
  else floatLayout.write x

def numberText : Number → String
  | .integer n => toString n.val
  | .float x => floatText x

end BuildRemarks.Yaml
