import BuildRemarks.Failure
import BuildRemarks.Printed.Inlining
import BuildRemarks.Printed.Line
import BuildRemarks.Remark.Basic
import BuildRemarks.Text.Lines

/-!
# Parsing printed remarks

The tag of a line decides what its message is: an inlining sentence, a missed optimization
with its reason, the result of an analysis, or a note on size (specification, §4.1). A
line without a tag is an inlining sentence (§H). Lines that are nothing of the kind are
left out.
-/

namespace BuildRemarks.Printed

/-- What the tag of a line makes of its message. -/
inductive Form where
  | inlining
  | missed
  | analysis
  | sizeInfo
  deriving DecidableEq

/-- The words that tell the forms, in the order in which they are looked for. -/
def tagWords : List (String × Form) :=
  [("inline", .inlining), ("missed", .missed), ("analysis", .analysis),
    ("size-info", .sizeInfo)]

def Form.ofTag? : Option (List Char) → Option Form
  | none => some .inlining
  | some tag =>
    (tagWords.find? fun w => Text.occursIn w.1.toList tag).map (·.2)

/-- The two sides of the first colon that a space follows (§H), without blanks around them.
Neither is empty. -/
def splitSubject? (message : List Char) : Option (String × String) := do
  let (subject, rest) ← Text.splitOnce? [':', ' '] message
  let subject := Text.trim subject
  let rest := Text.trim rest
  if subject.isEmpty || rest.isEmpty then none else some (.ofList subject, .ofList rest)

/-- Enters a parameter `key=value` into the arguments. One without an equals sign or
without a key is left out. -/
def addParameter (args : Remark.Args) (parameter : List Char) : Remark.Args :=
  match Text.splitOnce? ['='] parameter with
  | none => args
  | some (key, value) =>
    let key := String.ofList (Text.trim key)
    let value := String.ofList (Text.trim value)
    if key = "cost" then { args with cost := some value }
    else if key = "" then args
    else { args with values := args.values.insert key value }

def Inlining.args (s : Inlining) : Remark.Args :=
  let args : Remark.Args :=
    { callee := some (.ofList s.callee)
      caller := some (.ofList s.caller)
      reason := some (.ofList (Text.trim s.reason))
      location := Location.ofTriple? (Text.trim s.callsite) }
  (Text.splitAll ',' (Text.trim s.parameters)).foldl addParameter args

def inliningRemark? (message : List Char) : Option Remark :=
  (Inlining.ofMessage? message).map fun s =>
    { Remark.plain .optimization .inlining .passed (.ofList message) with args := s.args }
      |>.withText "action" "inlined into"
      |>.withText "params" (.ofList (Text.trim s.parameters))
      |>.withText "callsite" (.ofList (Text.trim s.callsite))

def missedRemark? (message : List Char) : Option Remark :=
  (splitSubject? message).map fun (subject, reason) =>
    { Remark.plain .optimization .vectorization .missed (.ofList message) with
      args := { reason := some reason } }
      |>.withText "optimization" subject
      |>.withText "reason" reason

def analysisRemark? (message : List Char) : Option Remark :=
  (splitSubject? message).map fun (subject, result) =>
    { Remark.plain .analysis .analysis .analysis (.ofList message) with
      args := { strings := [subject, result] } }
      |>.withText "analysis" subject
      |>.withText "result" result

def Form.remark? (message : List Char) : Form → Option Remark
  | inlining => inliningRemark? message
  | missed => missedRemark? message
  | analysis => analysisRemark? message
  | sizeInfo => some (.plain .metric .sizeInfo .analysis (.ofList message))

/-- The remark of a line, if it is one of the four classes of §4.1. -/
def parseLine? (cs : List Char) : Option Remark := do
  let line ← Line.read? cs
  let form ← Form.ofTag? line.tag
  let remark ← form.remark? line.message
  let remark := { remark with location := some line.location }
  match line.tag with
  | none => some remark
  | some tag => some (remark.withText "tag" (.ofList tag))

def parse (stream : Text.Bytes) : Except Failure (List Remark) :=
  match Text.lines? stream with
  | none => .error .encoding
  | some lines => .ok (lines.filterMap fun line => parseLine? line.toList)

end BuildRemarks.Printed
