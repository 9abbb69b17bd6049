import BuildRemarks.Record.Typed
import BuildRemarks.Text.Blank

/-!
# The message of a record

A message names the pass and the remark and goes on with the arguments: texts as they are,
types, and callees with their callers (specification, §4.2). A callee and a caller are
shown together once both are known, in whatever entries they stand.
-/

namespace BuildRemarks.Record

open Yaml (Value)

structure Draft where
  text : List Char
  /-- A callee whose caller is not known yet. -/
  callee : Option String := none
  /-- A caller whose callee is not known yet. -/
  caller : Option String := none

def endsBlank (cs : List Char) : Bool := (cs.getLast?.map Text.isBlank).getD false

/-- A word behind a text, with a space between unless a blank stands there. -/
def appendWord (cs word : List Char) : List Char :=
  if endsBlank cs then cs ++ word else cs ++ ' ' :: word

/-- Shows a callee with its caller once both are known. -/
def Draft.pair (d : Draft) : Draft :=
  match d.callee, d.caller with
  | some callee, some caller =>
    { text := appendWord d.text (callee.toList ++ " -> ".toList ++ caller.toList) }
  | _, _ => d

def Draft.add (d : Draft) (name : Option String) (text : String) : Draft :=
  match name with
  | some "String" => { d with text := d.text ++ text.toList }
  | some "Callee" => { d with callee := some text }
  | some "Caller" => { d with caller := some text }
  | some "Type" => { d with text := appendWord d.text ("type: ".toList ++ text.toList) }
  | _ => d

def Draft.addPair (d : Draft) (pair : Value × Value) : Draft :=
  match scalarText? pair.2 with
  | some text => (d.add pair.1.text? text).pair
  | none => d

/-- The pairs of the entries, whatever their tags. -/
def pairs (vs : List Value) : List (Value × Value) :=
  vs.flatMap fun v => v.entries?.getD []

def messageStart (pass name : String) : List Char :=
  pass.toList ++ ": ".toList ++ name.toList

def message (pass name : String) (vs : List Value) : String :=
  .ofList ((pairs vs).foldl Draft.addPair { text := messageStart pass name }).text

end BuildRemarks.Record
