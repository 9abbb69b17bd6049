import BuildRemarks.Record.Typed
import BuildRemarks.Remark.Basic

/-!
# Arguments of a record

The argument entries of a record are folded into the arguments of a remark (specification,
§4.2 and §G.6). Texts under `String` are gathered; under any other name the last text
counts. A location beside an access belongs to the access, any other to the entry.
-/

namespace BuildRemarks.Record

open Yaml (Value)
open Remark (Args Access)

/-- The names of the arguments that have a field of their own, with the fields. -/
def setNamed (args : Args) (name text : String) : Args :=
  match name with
  | "String" => { args with strings := args.strings ++ [text] }
  | "Callee" => { args with callee := some text }
  | "Caller" => { args with caller := some text }
  | "Type" => { args with valueType := some text }
  | "Line" => { args with line := some text }
  | "Column" => { args with column := some text }
  | "Cost" => { args with cost := some text }
  | "Reason" => { args with reason := some text }
  | _ => { args with values := args.values.insert name text }

def entryLocation? (entries : List (Value × Value)) : Option Location :=
  (Value.entry? entries "DebugLoc").bind location?

/-- The access that a value describes. A location inside it goes before the one beside
it. -/
def access (beside : Option Location) (v : Value) : Access :=
  match v with
  | .mapping entries =>
    { type := ((Value.entry? entries "Type").or (Value.entry? entries "type")).bind scalarText?
      location := (entryLocation? entries).or beside }
  | v => { type := scalarText? v, location := beside }

def addPair (beside : Option Location) (args : Args) (pair : Value × Value) : Args :=
  match pair.1.text? with
  | none => args
  | some "OtherAccess" => { args with otherAccess := some (access beside pair.2) }
  | some "ClobberedBy" => { args with clobberedBy := some (access beside pair.2) }
  | some "DebugLoc" => args
  | some name =>
    match scalarText? pair.2 with
    | some text => setNamed args name text
    | none => args

def namesAccess (key : Value) : Bool :=
  key.text? == some "OtherAccess" || key.text? == some "ClobberedBy"

def addEntry (args : Args) (entries : List (Value × Value)) : Args :=
  let beside := entryLocation? entries
  let args := entries.foldl (addPair beside) args
  if entries.any fun e => namesAccess e.1 then args
  else match beside with
    | some location => { args with location := some location }
    | none => args

/-- Folds a value into the arguments. Only a mapping without tags is an entry. -/
def addArgument (args : Args) : Value → Args
  | .mapping entries => addEntry args entries
  | _ => args

def argsOf (vs : List Value) : Args := vs.foldl addArgument .none

end BuildRemarks.Record
