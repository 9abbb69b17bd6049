import BuildRemarks.Text.Blank
import BuildRemarks.Text.Bracket

/-!
# Pass tags

A line about a kernel may end in the tag of the pass that reported it, as in
`[-Rpass=kernel-info]`. The blanks before the tag belong to it.
-/

namespace BuildRemarks.Kernel

/-- The pass tag, if the text is one behind blanks. -/
def passTag? (cs : List Char) : Option (List Char) :=
  Text.bracketed? (cs.dropWhile Text.isBlank)

/-- A text and its pass tag, apart: the first match of `\s*\[([^\]]+)\]$` is the tag, and what
stands before the match is the text. -/
def splitPassTag : List Char → List Char × Option (List Char)
  | [] => ([], none)
  | c :: cs =>
    match passTag? (c :: cs) with
    | some tag => ([], some tag)
    | none => (c :: (splitPassTag cs).1, (splitPassTag cs).2)

def withoutPassTag (cs : List Char) : List Char := (splitPassTag cs).1

def passTagOf (cs : List Char) : Option (List Char) := (splitPassTag cs).2

end BuildRemarks.Kernel
