import BuildRemarks.Location
import BuildRemarks.Yaml.Value

/-!
# Typed parts of a record

Reading a YAML value as the value of some type. Tags are looked through. A text is never
taken from a number or a truth value. Null stands for an empty sequence or mapping, and
where a value may be absent, null without a tag is its absence. The keys of a mapping
that is read as a record are texts, and those that the record has come at most once.
-/

namespace BuildRemarks.Record

open Yaml (Value)

def text? (v : Value) : Option String := v.text?

def integer? (low high : Int) (v : Value) : Option Int :=
  match v.untagged with
  | .number (.integer n) => if low ≤ n.val ∧ n.val < high then some n.val else none
  | _ => none

def uint32? (v : Value) : Option UInt32 :=
  (integer? 0 UInt32.size v).map fun n => UInt32.ofNat n.toNat

def int64? (v : Value) : Option Int64 :=
  (integer? Int64.minValue.toInt (Int64.maxValue.toInt + 1) v).map Int64.ofInt

def items? (v : Value) : Option (List Value) :=
  match v.untagged with
  | .sequence vs => some vs
  | .null => some []
  | _ => none

/-- The entries of a mapping whose keys are texts. -/
def namedEntries? (v : Value) : Option (List (String × Value)) :=
  match v.untagged with
  | .mapping es => es.mapM fun e => (text? e.1).map fun name => (name, e.2)
  | .null => some []
  | _ => none

/-- The value of a name that comes at most once, if it comes. -/
def member? (entries : List (String × Value)) (name : String) : Option (Option Value) :=
  match entries.filter fun e => e.1 = name with
  | [] => some none
  | [e] => some (some e.2)
  | _ => none

/-- Reads a member that may be missing or null. -/
def optional? {α : Type} (read : Value → Option α) (entries : List (String × Value))
    (name : String) : Option (Option α) := do
  match ← member? entries name with
  | none | some .null => some none
  | some v => (read v).map some

def required? {α : Type} (read : Value → Option α) (entries : List (String × Value))
    (name : String) : Option α := do
  let v ← (← member? entries name)
  read v

def location? (v : Value) : Option Location := do
  let entries ← namedEntries? v
  let file ← optional? text? entries "File"
  let line ← optional? uint32? entries "Line"
  let column ← optional? uint32? entries "Column"
  let function ← optional? text? entries "Function"
  let region ← optional? text? entries "Region"
  some { file, line, column, function, region }

/-- The text of a text, a number or a truth value. -/
def scalarText? (v : Value) : Option String :=
  match v.untagged with
  | .string s => some s
  | .number n => some (Yaml.numberText n)
  | .bool b => some (if b then "true" else "false")
  | _ => none

/-- A record before its parts are put together. -/
structure Body where
  pass : String
  name : String
  function : Option String
  location : Option Location
  hotness : Option Int64
  arguments : List Value

/-- Reads the body of a record. Its arguments may be missing. -/
def Body.read? (v : Value) : Option Body := do
  let entries ← namedEntries? v
  let pass ← required? text? entries "Pass"
  let name ← required? text? entries "Name"
  let function ← optional? text? entries "Function"
  let location ← optional? location? entries "DebugLoc"
  let hotness ← optional? int64? entries "Hotness"
  let arguments ←
    match ← member? entries "Args" with
    | none => some []
    | some v => items? v
  some { pass, name, function, location, hotness, arguments }

end BuildRemarks.Record
