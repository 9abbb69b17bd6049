import BuildRemarks.Kernel.Form
import BuildRemarks.Remark.Basic

/-!
# Remarks in JSON
-/

namespace BuildRemarks.Remark

open Json

def Kind.read : Reader Kind := .variant named

def Kind.form (k : Kind) : Value := .string k.name

def Pass.read : Reader Pass := .variant named

def Pass.form (p : Pass) : Value := .string p.name

def Status.read : Reader Status := .variant named

def Status.form (s : Status) : Value := .string s.name

def Access.schema : Schema Access where
  title := "RemarkAccess"
  start := {}
  lenient := false
  fields :=
    [.may "type" (.option .string) fun a v => { a with type := v },
      .may "debug_loc" (.option Location.read) fun a v => { a with location := v }]

def Access.read : Reader Access := schema.read

def Access.form (a : Access) : Value :=
  .object
    [("type", .option .string a.type),
      ("debug_loc", .option Location.form a.location)]

def Args.schema : Schema Args where
  title := "RemarkArgs"
  start := .none
  lenient := false
  fields :=
    [.must "strings" (.list .string) fun a v => { a with strings := v },
      .may "callee" (.option .string) fun a v => { a with callee := v },
      .may "caller" (.option .string) fun a v => { a with caller := v },
      .may "type" (.option .string) fun a v => { a with valueType := v },
      .may "line" (.option .string) fun a v => { a with line := v },
      .may "column" (.option .string) fun a v => { a with column := v },
      .may "cost" (.option .string) fun a v => { a with cost := v },
      .may "reason" (.option .string) fun a v => { a with reason := v },
      .may "debug_loc" (.option Location.read) fun a v => { a with location := v },
      .may "other_access" (.option Access.read) fun a v => { a with otherAccess := v },
      .may "clobbered_by" (.option Access.read) fun a v => { a with clobberedBy := v },
      .must "values" (.map .string) fun a v => { a with values := v }]

def Args.read : Reader Args := schema.read

def Args.form (a : Args) : Value :=
  .object
    [("strings", .list .string a.strings),
      ("callee", .option .string a.callee),
      ("caller", .option .string a.caller),
      ("type", .option .string a.valueType),
      ("line", .option .string a.line),
      ("column", .option .string a.column),
      ("cost", .option .string a.cost),
      ("reason", .option .string a.reason),
      ("debug_loc", .option Location.form a.location),
      ("other_access", .option Access.form a.otherAccess),
      ("clobbered_by", .option Access.form a.clobberedBy),
      ("values", .ofMap .string a.values)]

structure Timestamp.Parts where
  seconds : UInt64
  nanos : UInt32

namespace Timestamp

def partNames : List String := ["secs_since_epoch", "nanos_since_epoch"]

/-- The type of points in time in messages. -/
def title : String := "struct SystemTime"

/-- The seconds of parts whose nanoseconds may make up whole seconds. -/
def Parts.wholeSeconds (p : Parts) : Nat := p.seconds.toNat + p.nanos.toNat / nanosPerSecond

/-- The parts, whose seconds must fit a word. -/
def Parts.checked (p : Parts) : Except Flaw Parts :=
  if p.wholeSeconds < UInt64.size then .ok p else .error .offsetOverflow

def Parts.timestamp (p : Parts) : Except Flaw Timestamp :=
  if h : p.wholeSeconds < secondsBound then
    .ok
      { seconds := p.wholeSeconds
        nanos := p.nanos.toNat % nanosPerSecond
        seconds_lt := h
        nanos_lt := Nat.mod_lt _ (by decide) }
  else .error .timeOverflow

def readMembers : Option UInt64 → Option UInt32 →
    List (Except Flaw String × Source) → Except Flaw (Option UInt64 × Option UInt32)
  | seconds, nanos, [] => .ok (seconds, nanos)
  | seconds, nanos, (name, s) :: rest => do
    let name ← name
    if name = "secs_since_epoch" then
      if seconds.isSome then .error (.repeatedMember name)
      else
        let v ← Reader.uint64 s
        readMembers (some v) nanos rest
    else if name = "nanos_since_epoch" then
      if nanos.isSome then .error (.repeatedMember name)
      else
        let v ← Reader.uint32 s
        readMembers seconds (some v) rest
    else .error (.unknownMember name partNames)

def readElements (ending : ArrayEnd) : List Source → Except Flaw Parts
  | [] => Reader.ended () ending.readFlaw >>= fun _ => .error (.wrongLength 0 title)
  | [s] => do
    let _ ← Reader.uint64 s
    Reader.ended () ending.readFlaw
    .error (.wrongLength 1 title)
  | s :: n :: rest => do
    let seconds ← Reader.uint64 s
    let nanos ← Reader.uint32 n
    let parts ← Parts.checked ⟨seconds, nanos⟩
    if rest.isEmpty then Reader.ended parts ending.surplusFlaw
    else .error .trailingCharacters

def read : Reader Timestamp
  | .object members ending => do
    let (seconds, nanos) ← readMembers none none members
    Reader.ended () ending.readFlaw
    match seconds, nanos with
    | none, _ => .error (.missingMember "secs_since_epoch")
    | some _, none => .error (.missingMember "nanos_since_epoch")
    | some seconds, some nanos =>
      let parts ← Parts.checked ⟨seconds, nanos⟩
      parts.timestamp
  | .array elements ending => do
    let parts ← readElements ending elements
    parts.timestamp
  | s => .error (s.mismatch title)

def form (t : Timestamp) : Value :=
  .object
    [("secs_since_epoch", .word (UInt64.ofNat t.seconds)),
      ("nanos_since_epoch", .halfWord (UInt32.ofNat t.nanos))]

end Timestamp

/-- The remark whose fields are overwritten when one is read. -/
def unread : Remark := .plain .info .analysis .analysis ""

def schema : Schema Remark where
  title := "Remark"
  start := unread
  lenient := false
  fields :=
    [.must "id" .string fun r v => { r with id := v },
      .must "kind" Kind.read fun r v => { r with kind := v },
      .must "pass" Pass.read fun r v => { r with pass := v },
      .must "status" Status.read fun r v => { r with status := v },
      .must "message" .string fun r v => { r with message := v },
      .must "function" .string fun r v => { r with function := v },
      .may "location" (.option Location.read) fun r v => { r with location := v },
      .must "args" Args.read fun r v => { r with args := v },
      .may "kernel_info" (.option Kernel.Descriptor.read) fun r v => { r with kernel := v },
      .must "metadata" (.map readValue) fun r v => { r with metadata := v },
      .may "hotness" (.option .int64) fun r v => { r with hotness := v },
      .must "timestamp" Timestamp.read fun r v => { r with timestamp := v }]

def read : Reader Remark := schema.read

/-- The members of the JSON form of a remark, but for its time. -/
def members (r : Remark) : List (String × Value) :=
  [("id", .string r.id),
    ("kind", r.kind.form),
    ("pass", r.pass.form),
    ("status", r.status.form),
    ("message", .string r.message),
    ("function", .string r.function),
    ("location", .option Location.form r.location),
    ("args", r.args.form),
    ("kernel_info", .option Kernel.Descriptor.form r.kernel),
    ("metadata", .ofMap (fun v => v) r.metadata),
    ("hotness", .option (fun h => .integer (.ofInt64 h)) r.hotness)]

def form (r : Remark) : Value := .object (r.members ++ [("timestamp", r.timestamp.form)])

/-- The JSON form of a remark that leaves out when it was taken in. -/
def timelessForm (r : Remark) : Value := .object r.members

def readList (text : String) : Except Flaw (List Remark) := (Reader.list read).text text

end BuildRemarks.Remark
