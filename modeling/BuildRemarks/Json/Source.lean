import BuildRemarks.Json.Flaw
import BuildRemarks.Json.Value

/-!
# JSON texts as trees

A `Source` is a JSON text as a reader meets it: a tree whose flaws stand where they are
met. A reader walks the tree in the order of the text, so the first flaw in that order
is the one it reports. What is not asked for is only passed over, which takes less than
reading it: a text can be passed over whose escapes are no characters, whose numbers are
too large or which is nested too deep.
-/

namespace BuildRemarks.Json

inductive ArrayEnd where
  | closed
  | endOfText
  /-- With a comma before the closing bracket. -/
  | comma
  /-- With something that is neither comma nor bracket. -/
  | stray
  deriving DecidableEq

inductive ObjectEnd where
  | closed
  /-- With the text, where a comma or the brace should stand. -/
  | endOfText
  /-- With a comma before the closing brace. -/
  | comma
  | endBehindComma
  | stray
  /-- With something else than a name; `found` is what it reads as. -/
  | noName (found : Except Flaw Found)
  /-- With a name that cannot be read, nor passed over. -/
  | badName (read pass : Flaw)

/-- A JSON text as a reader meets it. -/
inductive Source where
  | null
  | bool (b : Bool)
  | number (n : Number)
  | string (s : String)
  | array (elements : List Source) (ending : ArrayEnd)
  /-- A name that can only be passed over is given by its flaw. -/
  | object (members : List (Except Flaw String × Source)) (ending : ObjectEnd)
  /-- An array or object that is nested too deep to be read. -/
  | deep (inner : Source)
  /-- A literal or number that cannot be read, and what stops a reader passing over it. -/
  | misspelt (flaw : Flaw) (pass : Option Flaw)
  | unreadable (flaw : Flaw) (pass : Option Flaw)

/-- What a reader of the elements meets at their end. -/
def ArrayEnd.readFlaw : ArrayEnd → Option Flaw
  | closed => none
  | endOfText => some .endOfList
  | comma => some .trailingComma
  | stray => some .expectedListSeparator

/-- What a reader that passes over the elements meets at their end. -/
def ArrayEnd.passFlaw : ArrayEnd → Option Flaw
  | closed => none
  | endOfText => some .endOfList
  | comma => some .expectedValue
  | stray => some .expectedListSeparator

/-- What a reader meets that wants no more elements. -/
def ArrayEnd.surplusFlaw : ArrayEnd → Option Flaw
  | closed => none
  | endOfText => some .endOfList
  | comma => some .trailingComma
  | stray => some .trailingCharacters

def ObjectEnd.readFlaw : ObjectEnd → Option Flaw
  | closed => none
  | endOfText => some .endOfObject
  | comma => some .trailingComma
  | endBehindComma => some .endOfValue
  | stray => some .expectedObjectSeparator
  | noName _ => some .nameNotString
  | badName read _ => some read

def ObjectEnd.passFlaw : ObjectEnd → Option Flaw
  | closed => none
  | endOfText => some .endOfObject
  | comma => some .nameNotString
  | endBehindComma => some .endOfObject
  | stray => some .expectedObjectSeparator
  | noName _ => some .nameNotString
  | badName _ pass => some pass

namespace Source

mutual

/-- What a reader meets that passes over a text. -/
def passFlaw : Source → Option Flaw
  | null | bool _ | number _ | string _ => none
  | array elements ending => (passElements elements).or ending.passFlaw
  | object members ending => (passMembers members).or ending.passFlaw
  | deep inner => inner.passFlaw
  | misspelt _ pass => pass
  | unreadable _ pass => pass

def passElements : List Source → Option Flaw
  | [] => none
  | s :: ss => s.passFlaw.or (passElements ss)

def passMembers : List (Except Flaw String × Source) → Option Flaw
  | [] => none
  | (_, s) :: ms => s.passFlaw.or (passMembers ms)

end

mutual

/-- The text of a value, without flaws. -/
def ofValue : Value → Source
  | .null => null
  | .bool b => bool b
  | .number n => number n
  | .string s => string s
  | .array vs => array (ofValues vs) .closed
  | .object ms => object (ofMembers ms) .closed

def ofValues : List Value → List Source
  | [] => []
  | v :: vs => ofValue v :: ofValues vs

def ofMembers : List (String × Value) → List (Except Flaw String × Source)
  | [] => []
  | (name, v) :: ms => (.ok name, ofValue v) :: ofMembers ms

end

/-- What a text reads as where something else is expected. -/
def found : Source → Except Flaw Found
  | null => .ok .null
  | bool b => .ok (.boolean b)
  | number (.integer n) => .ok (.integer n.val)
  | number (.float x) => .ok (.float x)
  | string s => .ok (.text s)
  | array .. => .ok .sequence
  | object .. => .ok .map
  | deep _ => .error .tooDeep
  | misspelt flaw _ => .error flaw
  | unreadable flaw _ => .error flaw

def mismatch (s : Source) (expected : String) : Flaw :=
  match s.found with
  | .ok f => .mismatch f expected
  | .error flaw => flaw

end Source

end BuildRemarks.Json
