import BuildRemarks.Text.Blank
import BuildRemarks.Text.Numeral
import BuildRemarks.Text.Search

/-!
# Source locations

A location names a place in the compiled program (specification, §3). Each of its parts
may be unknown.
-/

namespace BuildRemarks

/-- A place in the compiled program; lines and columns count from one. -/
structure Location where
  file : Option String := none
  line : Option UInt32 := none
  column : Option UInt32 := none
  function : Option String := none
  /-- The name of the code region around the place. -/
  region : Option String := none
  deriving DecidableEq

namespace Location

def unknown : Location := {}

def inFile (file : String) (line column : UInt32) : Location :=
  { file := some file, line := some line, column := some column }

def inFunction (function : String) : Location := { function := some function }

def isEmpty (l : Location) : Bool := decide (l = unknown)

/-- Reads `file:line:column` between blanks. The file is what stands before the last two
colons. -/
def ofTriple? (text : List Char) : Option Location := do
  let (front, column) ← Text.splitLast? ':' (Text.trim text)
  let (file, line) ← Text.splitLast? ':' front
  let column ← Text.readUInt32? column
  let line ← Text.readUInt32? line
  if file.isEmpty then none else some (.inFile (.ofList file) line column)

end Location

end BuildRemarks
