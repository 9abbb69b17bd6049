import BuildRemarks.NameMap
import BuildRemarks.Number

/-!
# JSON values

A value as a document holds it: an object lists its members with their names.
-/

namespace BuildRemarks.Json

inductive Value where
  | null
  | bool (b : Bool)
  | number (n : Number)
  | string (s : String)
  | array (elements : List Value)
  | object (members : List (String × Value))

namespace Value

def integer (n : WordInt) : Value := .number (.integer n)

def word (w : UInt64) : Value := integer (.ofUInt64 w)

def halfWord (w : UInt32) : Value := integer (.ofUInt32 w)

def float (x : Float) : Value := .number (.float x)

def option {α : Type} (write : α → Value) : Option α → Value
  | none => null
  | some a => write a

def list {α : Type} (write : α → Value) (as : List α) : Value := array (as.map write)

def ofMap {α : Type} (write : α → Value) (m : NameMap α) : Value :=
  object (m.entries.map fun e => (e.1, write e.2))

def member? (v : Value) (name : String) : Option Value :=
  match v with
  | object members => members.lookup name
  | _ => none

end Value

end BuildRemarks.Json
