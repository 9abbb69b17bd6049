import BuildRemarks.Failure
import BuildRemarks.Record.Arguments
import BuildRemarks.Record.Message
import BuildRemarks.Yaml.Load

/-!
# Optimization records

A compiler writes its optimization records as a stream of YAML documents (specification,
§4.2). The tag of a document gives the outcome. A document without such a tag, or whose
body is no record, is left out; a stream that is no YAML fails as a whole.
-/

namespace BuildRemarks.Record

open Yaml (Value)

def kindOf (pass : Remark.Pass) (status : Remark.Status) : Remark.Kind :=
  match pass, status with
  | .kernelInfo, _ => .kernel
  | .sizeInfo, _ => .metric
  | _, .analysis => .analysis
  | _, _ => .optimization

/-- The place of a record. It is in the function of the record unless it says otherwise. -/
def placeOf (body : Body) : Option Location :=
  body.location.map fun l => { l with function := l.function.or body.function }

def Body.remark (body : Body) (status : Remark.Status) : Remark :=
  let pass := Remark.Pass.ofCompilerName body.pass
  { Remark.plain (kindOf pass status) pass status
      (message body.pass body.name body.arguments) with
    function := body.function.getD ""
    location := placeOf body
    hotness := body.hotness
    args := argsOf body.arguments }
    |>.withText "pass" body.pass
    |>.withText "name" body.name

def writtenTag (tag : String) : String := .ofList ('!' :: Yaml.bareTag tag)

/-- The remark of a document, unless the document is one that §4.2 skips. -/
def remark? : Value → Option Remark
  | .tagged tag v => do
    let status ← Remark.Status.ofTag? (writtenTag tag)
    let body ← Body.read? v
    some (body.remark status)
  | _ => none

def ofDocuments (documents : List Value) : List Remark := documents.filterMap remark?

def parse (stream : Text.Bytes) : Except Failure (List Remark) :=
  match Text.decode? stream with
  | none => .error .encoding
  | some text =>
    match Yaml.load? text with
    | none => .error .recordStream
    | some documents => .ok (ofDocuments documents)

end BuildRemarks.Record
