import Mathlib.Data.List.Induction
import BuildRemarks.Printed.Parse
import BuildRemarks.Proofs.NameMap
import BuildRemarks.Proofs.Text.Splitting
import BuildRemarks.Proofs.Text.Trimming

/-!
# Parameters of an inlining sentence

Parameters joined by commas give the arguments that they name. The last one of a name counts,
and the cost is an argument of its own.
-/

namespace BuildRemarks.Printed

/-- A parameter, its key and its value. -/
abbrev Parameter := List Char × List Char

def Parameter.text (p : Parameter) : List Char := p.1 ++ '=' :: p.2

def parametersText (ps : List Parameter) : List Char :=
  [',', ' '].intercalate (ps.map Parameter.text)

/-- Key and value hold no mark of the notation, and no blanks are around them. -/
structure Parameter.Proper (p : Parameter) : Prop where
  key_ne_nil : p.1 ≠ []
  comma_notMem_key : ',' ∉ p.1
  equals_notMem_key : '=' ∉ p.1
  paren_notMem_key : ')' ∉ p.1
  comma_notMem_value : ',' ∉ p.2
  paren_notMem_value : ')' ∉ p.2
  trim_key : Text.trim p.1 = p.1
  trim_value : Text.trim p.2 = p.2

/-- The value that the last parameter of a name has. -/
def lastValue? (name : String) (ps : List Parameter) : Option String :=
  (ps.filterMap fun p =>
    if String.ofList p.1 = name then some (String.ofList p.2) else none).getLast?

variable {ps : List Parameter}

end BuildRemarks.Printed
