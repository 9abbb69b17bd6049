import BuildRemarks.Failure
import BuildRemarks.Kernel.Heading
import BuildRemarks.Kernel.PassTag
import BuildRemarks.Kernel.Sentence
import BuildRemarks.Kernel.Totals
import BuildRemarks.Text.Lines

/-!
# Scanning kernel lines

Lines about kernels are scanned one after the other (specification, §4.3). Every line
gives a remark. A line without a heading belongs to the kernel of the last heading before
it. The metrics of all lines are totalled, and the totals follow the lines as remarks of
their own.
-/

namespace BuildRemarks.Kernel

structure Scan where
  function : Option String := none
  totals : Totals := .none
  remarks : List Remark := []

/-- The parts of a line: its heading, if it has one, and the text behind that, both
without the pass tag. -/
def splitHeading (line : List Char) : Option Heading × List Char :=
  let body := withoutPassTag line
  match Heading.read? body with
  | some (heading, rest) => (some heading, rest)
  | none => (none, body)

/-- The text of a line without the punctuation between heading and text. -/
def messageOf (cs : List Char) : List Char :=
  Text.trim (cs.dropWhile fun c => c == ',' || c == ':')

namespace Scan

def start : Scan := {}

def resume (totals : Totals) : Scan := { totals }

def functionOf (s : Scan) : Option Heading → Option String
  | some heading => some heading.kernelName
  | none => s.function

def locationOf (s : Scan) : Option Heading → Option Location
  | some heading => some heading.location
  | none => s.function.map Location.inFunction

def remarkOf (s : Scan) (line : List Char) : Remark :=
  let (heading, text) := splitHeading line
  let message := messageOf text
  { Remark.plain .kernel .kernelInfo .analysis (.ofList message) with
    function := (s.functionOf heading).getD ""
    location := s.locationOf heading
    kernel := (Sentence.ofText? message).map Sentence.describe }

def metricOf? (line : List Char) : Option (String × UInt64) :=
  (Sentence.ofText? (messageOf (splitHeading line).2)).bind Sentence.metric?

/-- The scan behind one more line, by the steps of §4.3. -/
def feed (s : Scan) (line : List Char) : Scan where
  function := s.functionOf (splitHeading line).1
  totals :=
    match metricOf? line with
    | some (name, value) => s.totals.record name value
    | none => s.totals
  remarks := s.remarks ++ [s.remarkOf line]

def feedAll (s : Scan) (lines : List (List Char)) : Scan := lines.foldl feed s

/-- The remarks of a finished scan: those of the lines, then those of the totals (§4.3,
termination). -/
def finish (s : Scan) : List Remark := s.remarks ++ s.totals.remarks

theorem feedAll_cons (s : Scan) (line : List Char) (lines : List (List Char)) :
    s.feedAll (line :: lines) = (s.feed line).feedAll lines := rfl

theorem feedAll_append (s : Scan) (xs ys : List (List Char)) :
    s.feedAll (xs ++ ys) = (s.feedAll xs).feedAll ys := by
  simp only [feedAll, List.foldl_append]

theorem remarks_feed (s : Scan) (line : List Char) :
    (s.feed line).remarks = s.remarks ++ [s.remarkOf line] := rfl

end Scan

def remarkMark : String := "remark: "

def kernelTag : List Char := "kernel-info".toList

/-- The text that a line of compiler output gives to the scan: that of a remark without
a tag, or with the tag of the kernel pass. -/
def kernelLine? (line : List Char) : Option (List Char) :=
  match Text.after? remarkMark line with
  | none => none
  | some body =>
    match passTagOf body with
    | some tag => if Text.occursIn kernelTag tag then some body else none
    | none => some body

def remarksOfLines (lines : List String) : List Remark :=
  (Scan.start.feedAll (lines.filterMap fun line => kernelLine? line.toList)).finish

def parse (stream : Text.Bytes) : Except Failure (List Remark) :=
  match Text.lines? stream with
  | none => .error .encoding
  | some lines => .ok (remarksOfLines lines)

end BuildRemarks.Kernel
