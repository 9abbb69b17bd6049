import BuildRemarks.Yaml.Cursor

/-!
# Block scalars

The lines of a block scalar are indented by a number of columns that its header gives or
that its first line shows. A literal scalar keeps its line breaks; a folded one folds
those between lines that do not start with a blank. The header says what becomes of the
breaks at the end.
-/

namespace BuildRemarks.Yaml

/-- What becomes of the line breaks at the end of a block scalar. -/
inductive Chomping where
  /-- None stays. -/
  | strip
  /-- The first stays. -/
  | clip
  /-- All stay. -/
  | keep
  deriving DecidableEq

structure BlockHeader where
  folded : Bool
  chomping : Chomping
  /-- By how many columns the lines are indented, if that is given. -/
  increment : Option Nat

def chomping? (c : Cursor) : Option (Chomping × Cursor) :=
  match c.rest with
  | '+' :: _ => some (.keep, c.next)
  | '-' :: _ => some (.strip, c.next)
  | _ => none

/-- An indentation indicator, if there is one; it is not zero. -/
def increment? (c : Cursor) : Option (Option Nat × Cursor) :=
  match c.rest with
  | ch :: _ =>
    if ch == '0' then none
    else if ch.isDigit then some (some (ch.toNat - '0'.toNat), c.next)
    else some (none, c)
  | [] => some (none, c)

/-- The header of a block scalar, from its indicator on, and the start of the next line. -/
def blockHeader? (c : Cursor) : Option (BlockHeader × Cursor) := do
  let folded := c.rest.head? = some '>'
  let c := c.next
  let (chomping, increment, c) ←
    match chomping? c with
    | some (chomping, c) => do
      let (increment, c) ← increment? c
      some (chomping, increment, c)
    | none => do
      let (increment, c) ← increment? c
      match increment, chomping? c with
      | some n, some (chomping, c) => some (chomping, some n, c)
      | increment, _ => some (.clip, increment, c)
  let c := c.skipGap.skipComment
  if !atLineEnd c.rest then none
  else
    let c := (c.lineBreak?.map (·.2)).getD c
    some (⟨folded, chomping, increment⟩, c)

/-- The spaces that a line is indented by, up to the given number of columns. -/
def skipIndentation (columns : Option Nat) (c : Cursor) : Cursor :=
  let run := (c.rest.takeWhile (· == ' ')).length
  match columns with
  | none => c.advance run
  | some n => c.advance (min run (n - c.column))

/-- Passes over empty lines: their breaks, the greatest column met and the place where
the next line has text. -/
def emptyLines (columns : Option Nat) :
    (fuel : Nat) → (breaks : List Char) → (deepest : Nat) → Cursor →
      Option (List Char × Nat × Cursor)
  | 0, breaks, deepest, c => some (breaks, deepest, c)
  | fuel + 1, breaks, deepest, c =>
    let c := skipIndentation columns c
    let deepest := max deepest c.column
    let shallow := match columns with
      | none => true
      | some n => decide (c.column < n)
    if shallow && c.rest.head? == some '\t' then none
    else match c.lineBreak? with
      | none => some (breaks, deepest, c)
      | some (br, c) => emptyLines columns fuel (breaks ++ [br]) deepest c

structure BlockText where
  text : List Char := []
  /-- The break behind the last line. -/
  pending : List Char := []
  /-- The breaks of the empty lines behind that. -/
  empties : List Char := []
  /-- The last line starts with a blank. -/
  blankStart : Bool := false

/-- The breaks before one more line, which starts with a blank or not. -/
def BlockText.joint (t : BlockText) (folded startsBlank : Bool) : List Char :=
  if folded && t.pending == ['\n'] && !t.blankStart && !startsBlank then
    if t.empties.isEmpty then [' '] else t.empties
  else t.pending ++ t.empties

def BlockText.chomp (t : BlockText) : Chomping → List Char
  | .strip => t.text
  | .clip => t.text ++ t.pending
  | .keep => t.text ++ t.pending ++ t.empties

def blockLines (folded : Bool) (columns : Nat) :
    (fuel : Nat) → BlockText → Cursor → Option (BlockText × Cursor)
  | 0, t, c => some (t, c)
  | fuel + 1, t, c =>
    match c.rest with
    | [] => some (t, c)
    | ch :: _ =>
      if c.column ≠ columns then some (t, c)
      else do
        let startsBlank := isGap ch
        let text := t.text ++ t.joint folded startsBlank
        let (line, c) := c.takeWhile fun ch => !isBreak ch
        let (pending, c) := match c.lineBreak? with
          | some (br, c) => ([br], c)
          | none => ([], c)
        let (empties, _, c) ← emptyLines (some columns) (c.rest.length + 1) [] 0 c
        blockLines folded columns fuel ⟨text ++ line, pending, empties, startsBlank⟩ c

/-- A block scalar, from its indicator on, inside a block indented by `indent` columns,
which is −1 outside all blocks. -/
def block? (indent : Int) (c : Cursor) : Option (List Char × Cursor) := do
  let (header, c) ← blockHeader? c
  let columns := header.increment.map fun n => (max indent 0).toNat + n
  let (empties, deepest, c) ← emptyLines columns (c.rest.length + 1) [] 0 c
  let columns := columns.getD (max (max deepest (indent + 1).toNat) 1)
  let (t, c) ← blockLines header.folded columns (c.rest.length + 1) { empties } c
  some (t.chomp header.chomping, c)

end BuildRemarks.Yaml
