import BuildRemarks.Location
import BuildRemarks.Text.DecimalDigit

/-!
# Headings of kernel lines

A line about a kernel may open with the place of the kernel, as in
`k.c:13:0: in artificial function 'kern'` (specification, §4.3, step 1). The file is what
stands before the first colon. Line and column are digits of any script; they are known
only if they are ASCII digits and fit 32 bits.
-/

namespace BuildRemarks.Kernel

structure Heading where
  file : List Char
  line : List Char
  column : List Char
  function : List Char

def digits? (cs : List Char) : Option (List Char × List Char) :=
  match Text.takeRun Text.isDecimalDigit cs with
  | ([], _) => none
  | found => some found

/-- The heading that a text begins with, `^([^:]+):(\d+):(\d+): in artificial function '([^']+)'`,
and the rest of the text. -/
def Heading.read? (cs : List Char) : Option (Heading × List Char) := do
  let (file, cs) ← Text.runTo? ':' cs
  let (line, cs) ← digits? cs
  let cs ← Text.after? ":" cs
  let (column, cs) ← digits? cs
  let cs ← Text.after? ": in artificial function '" cs
  let (function, cs) ← Text.runTo? '\'' cs
  pure (⟨file, line, column, function⟩, cs)

def Heading.kernelName (h : Heading) : String := .ofList h.function

def Heading.location (h : Heading) : Location where
  file := some (.ofList h.file)
  line := Text.readUInt32? h.line
  column := Text.readUInt32? h.column
  function := some h.kernelName

end BuildRemarks.Kernel
