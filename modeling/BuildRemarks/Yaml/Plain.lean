import BuildRemarks.Yaml.Folding

/-!
# Plain scalars

A scalar without quotes ends at a colon before a blank, at a comment, at a document mark,
and inside brackets also at a bracket or comma. Outside brackets the lines behind its
first have to be indented.
-/

namespace BuildRemarks.Yaml

/-- A character that brackets reserve for their structure. -/
def isFlowIndicator (c : Char) : Bool :=
  c == ',' || c == '[' || c == ']' || c == '\x7b' || c == '\x7d'

/-- The next character is one that may not follow a colon inside brackets. -/
def hasStrayIndicator : List Char → Bool
  | [] => false
  | c :: _ => isFlowIndicator c || c == '?'

def plainStretch (inFlow : Bool) : List Char → Option (List Char)
  | [] => some []
  | c :: rest =>
    if isGapOrBreak c then some []
    else if inFlow && c == ':' && hasStrayIndicator rest then none
    else if c == ':' && atWordEnd rest || inFlow && isFlowIndicator c then some []
    else (plainStretch inFlow rest).map (c :: ·)

structure PlainScalar where
  text : List Char
  /-- A line break stands behind the scalar. -/
  broken : Bool
  cursor : Cursor

/-- Goes on with a plain scalar behind `text` and the fold `f`. -/
def plainFrom (inFlow : Bool) (floor : Nat) :
    (fuel : Nat) → (text : List Char) → Fold → Cursor → Option PlainScalar
  | 0, _, _, _ => none
  | fuel + 1, text, f, c =>
    if c.atMark || c.rest.head? == some '#' then some ⟨text, f.broken, c⟩
    else do
      let s ← plainStretch inFlow c.rest
      if s.isEmpty then some ⟨text, f.broken, c⟩
      else
        let text := text ++ f.text ++ s
        let c := c.advance s.length
        if c.atEnd || !atWordEnd c.rest then some ⟨text, false, c⟩
        else
          let (f, c) ← readFold floor .none c
          if !inFlow && decide (c.column < floor) then some ⟨text, f.broken, c⟩
          else plainFrom inFlow floor fuel text f c

/-- A plain scalar whose lines start at the column `floor` or right of it. -/
def plain? (inFlow : Bool) (floor : Nat) (c : Cursor) : Option PlainScalar :=
  plainFrom inFlow floor (c.rest.length + 1) [] .none c

end BuildRemarks.Yaml
