import BuildRemarks.Location
import BuildRemarks.Text.Bracket

/-!
# Printed remark lines

A compiler prints a remark as one line, `remark: <file>:<line>:<column>: <message>`
(specification, §4.1), often with a tag in brackets behind the message. The file is what
stands before the first colon. The message is not empty and holds no line break; it ends
where a tag begins that closes the line.
-/

namespace BuildRemarks.Printed

structure Line where
  file : List Char
  line : UInt32
  column : UInt32
  message : List Char
  tag : Option (List Char)

/-- The end of a line behind its message: nothing, or a tag. -/
def tagAt? : List Char → Option (Option (List Char))
  | [] => some none
  | ' ' :: cs => (Text.bracketed? cs).map some
  | _ => none

def splitTag? : List Char → Option (List Char × Option (List Char))
  | [] => none
  | c :: cs =>
    if c = '\n' then none
    else match tagAt? cs with
      | some tag => some ([c], tag)
      | none => (splitTag? cs).map fun p => (c :: p.1, p.2)

def lineMark : String := "remark: "

/-- A number between colons. -/
def number? (cs : List Char) : Option (UInt32 × List Char) := do
  let (digits, rest) ← Text.runTo? ':' cs
  let n ← Text.readDigits? digits
  if n < UInt32.size then some (UInt32.ofNat n, rest) else none

/-- The parts of a whole line, `^remark: ([^:]+):(\d+):(\d+): (.+?)(?: \[([^\]]+)\])?$`. -/
def Line.read? (cs : List Char) : Option Line := do
  let cs ← Text.after? lineMark cs
  let (file, cs) ← Text.runTo? ':' cs
  let (line, cs) ← number? cs
  let (column, cs) ← number? cs
  let cs ← Text.after? " " cs
  let (message, tag) ← splitTag? cs
  pure ⟨file, line, column, message, tag⟩

def Line.location (l : Line) : Location := .inFile (.ofList l.file) l.line l.column

end BuildRemarks.Printed
