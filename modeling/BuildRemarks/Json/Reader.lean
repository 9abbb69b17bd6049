import BuildRemarks.Json.Text

/-!
# Typed readers

A reader takes the value of one type from a text. A record is read by overwriting the
fields of a starting value: from the members of an object, in the order of the text, or
from the elements of an array, in the order of the fields.
-/

namespace BuildRemarks.Json

/-- Takes a value from a text. -/
abbrev Reader (α : Type) := Source → Except Flaw α

namespace Reader

variable {α β : Type}

/-- The value of a reader whose text ends in a certain way. -/
def ended (a : α) : Option Flaw → Except Flaw α
  | none => .ok a
  | some flaw => .error flaw

def string : Reader String
  | .string s => .ok s
  | s => .error (s.mismatch "a string")

def bool : Reader Bool
  | .bool b => .ok b
  | s => .error (s.mismatch "a boolean")

def integer (expected : String) (low high : Int) (make : Int → α) : Reader α
  | .number (.integer n) =>
    if low ≤ n.val ∧ n.val < high then .ok (make n.val)
    else .error (.outOfRange n.val expected)
  | s => .error (s.mismatch expected)

def uint32 : Reader UInt32 := integer "u32" 0 UInt32.size fun n => UInt32.ofNat n.toNat

def uint64 : Reader UInt64 := integer "u64" 0 UInt64.size fun n => UInt64.ofNat n.toNat

def int64 : Reader Int64 :=
  integer "i64" Int64.minValue.toInt (Int64.maxValue.toInt + 1) Int64.ofInt

def count : Reader Nat := integer "usize" 0 UInt64.size Int.toNat

def floatOfWord (n : WordInt) : Float :=
  if 0 ≤ n.val then (UInt64.ofNat n.val.natAbs).toFloat
  else -(UInt64.ofNat n.val.natAbs).toFloat

def float : Reader Float
  | .number (.float x) => .ok x
  | .number (.integer n) => .ok (floatOfWord n)
  | s => .error (s.mismatch "f64")

def option (read : Reader α) : Reader (Option α)
  | .null => .ok none
  | s => (read s).map some

def each (read : Reader α) : List Source → Except Flaw (List α)
  | [] => .ok []
  | s :: ss => do
    let a ← read s
    let as ← each read ss
    pure (a :: as)

def list (read : Reader α) : Reader (List α)
  | .array elements ending => do
    let as ← each read elements
    ended as ending.readFlaw
  | s => .error (s.mismatch "a sequence")

/-- Enters the members of an object into a map, later ones over earlier ones. -/
def entries (read : Reader α) :
    NameMap α → List (Except Flaw String × Source) → Except Flaw (NameMap α)
  | m, [] => .ok m
  | m, (name, s) :: rest => do
    let name ← name
    let a ← read s
    entries read (m.insert name a) rest

def map (read : Reader α) : Reader (NameMap α)
  | .object members ending => do
    let m ← entries read .empty members
    ended m ending.readFlaw
  | s => .error (s.mismatch "a map")

def variantNamed (known : List (String × α)) (name : String) : Except Flaw α :=
  match known.lookup name with
  | some a => .ok a
  | none => .error (.unknownVariant name (known.map (·.1)))

/-- The end of an object whose only member has been read. -/
def onlyMember (a : α) (rest : List (Except Flaw String × Source)) :
    ObjectEnd → Except Flaw α
  | .closed => if rest.isEmpty then .ok a else .error .expectedValue
  | .endOfText => .error (if rest.isEmpty then .endOfObject else .expectedValue)
  | _ => .error .expectedValue

/-- Reads one of the known names: as a string, or as the name of the only member of an
object, whose value is null. -/
def variant (known : List (String × α)) : Reader α
  | .string name => variantNamed known name
  | .object ((name, s) :: rest) ending => do
    let name ← name
    let a ← variantNamed known name
    match s with
    | .null => onlyMember a rest ending
    | s => .error (s.mismatch "unit")
  | .object [] .closed => .error .expectedValue
  | .object [] .endOfText => .error .endOfValue
  | .object [] (.noName (.ok found)) => .error (.mismatch found "variant identifier")
  | .object [] (.noName (.error flaw)) => .error flaw
  | .object [] (.badName flaw _) => .error flaw
  | .unreadable flaw _ => .error flaw
  | _ => .error .expectedValue

end Reader

mutual

/-- Reads any value. Of several members of one name the last one counts. -/
def readValue : Source → Except Flaw Value
  | .null => .ok .null
  | .bool b => .ok (.bool b)
  | .number n => .ok (.number n)
  | .string s => .ok (.string s)
  | .array elements ending => do
    let vs ← readValues elements
    Reader.ended (.array vs) ending.readFlaw
  | .object members ending => do
    let ms ← readMembers [] members
    Reader.ended (.object ms) ending.readFlaw
  | .deep _ => .error .tooDeep
  | .misspelt flaw _ => .error flaw
  | .unreadable flaw _ => .error flaw

def readValues : List Source → Except Flaw (List Value)
  | [] => .ok []
  | s :: ss => do
    let v ← readValue s
    let vs ← readValues ss
    pure (v :: vs)

def readMembers : List (String × Value) → List (Except Flaw String × Source) →
    Except Flaw (List (String × Value))
  | ms, [] => .ok ms
  | ms, (name, s) :: rest => do
    let name ← name
    let v ← readValue s
    readMembers (NameMap.insertEntry name v ms) rest

end

/-- A field of a record: its name, whether it must be there, and how its value gets into
the record. -/
structure Field (σ : Type) where
  name : String
  required : Bool
  store : Source → σ → Except Flaw σ

def Field.must {σ α : Type} (name : String) (read : Reader α) (put : σ → α → σ) :
    Field σ :=
  ⟨name, true, fun s r => (read s).map (put r)⟩

/-- A field that keeps its starting value where it is missing. -/
def Field.may {σ α : Type} (name : String) (read : Reader α) (put : σ → α → σ) :
    Field σ :=
  ⟨name, false, fun s r => (read s).map (put r)⟩

structure Schema (σ : Type) where
  /-- The name of the type in messages. -/
  title : String
  fields : List (Field σ)
  /-- The record whose fields are overwritten. -/
  start : σ
  /-- An array may give only the first fields. -/
  lenient : Bool

namespace Schema

variable {σ : Type}

/-- What is expected where an array is too short. -/
def expectation (schema : Schema σ) : String :=
  "struct " ++ schema.title ++ " with " ++ toString schema.fields.length ++ " elements"

def missing? (schema : Schema σ) (seen : List String) : Option String :=
  (schema.fields.find? fun f => f.required && !seen.contains f.name).map (·.name)

/-- Stores the members of an object one after the other; `seen` are the names so far. -/
def members (schema : Schema σ) (ending : ObjectEnd) :
    List String → σ → List (Except Flaw String × Source) → Except Flaw σ
  | seen, r, [] =>
    match ending.readFlaw with
    | some flaw => .error flaw
    | none => Reader.ended r ((schema.missing? seen).map .missingMember)
  | seen, r, (name, s) :: rest => do
    let name ← name
    match schema.fields.find? (·.name == name) with
    | none =>
      match s.passFlaw with
      | some flaw => .error flaw
      | none => schema.members ending seen r rest
    | some f =>
      if seen.contains name then .error (.repeatedMember name)
      else do
        let r ← f.store s r
        schema.members ending (name :: seen) r rest

/-- Stores the elements of an array into the fields, of which `index` have been stored. -/
def elements (schema : Schema σ) (ending : ArrayEnd) :
    (index : Nat) → List (Field σ) → σ → List Source → Except Flaw σ
  | _, [], r, [] => Reader.ended r ending.surplusFlaw
  | _, [], _, _ :: _ => .error .trailingCharacters
  | index, _ :: _, r, [] =>
    match ending.readFlaw with
    | some flaw => .error flaw
    | none => if schema.lenient then .ok r else .error (.wrongLength index schema.expectation)
  | index, f :: fs, r, s :: ss => do
    let r ← f.store s r
    schema.elements ending (index + 1) fs r ss

def read (schema : Schema σ) : Reader σ
  | .object ms ending => schema.members ending [] schema.start ms
  | .array es ending => schema.elements ending 0 schema.fields schema.start es
  | s => .error (s.mismatch ("struct " ++ schema.title))

/-- The schema that overwrites the fields of a given record, all of which may be missing. -/
def overwriting (schema : Schema σ) (start : σ) : Schema σ :=
  { schema with
    start
    fields := schema.fields.map fun f => { f with required := false } }

end Schema

def Reader.text {α : Type} (read : Reader α) (text : String) : Except Flaw α := do
  let (source, rest) := Source.ofText text.toList
  let a ← read source
  match rest with
  | none => pure a
  | some rest => if (skipSpaces rest).isEmpty then pure a else throw .trailingCharacters

end BuildRemarks.Json
