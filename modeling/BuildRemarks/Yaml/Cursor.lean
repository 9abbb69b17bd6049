import BuildRemarks.Yaml.Characters

/-!
# Cursors

A cursor is a place in a stream: the text from there on, the number of characters before
it, its line and its column.
-/

namespace BuildRemarks.Yaml

structure Cursor where
  rest : List Char
  index : Nat := 0
  line : Nat := 0
  column : Nat := 0

namespace Cursor

def start (text : List Char) : Cursor := { rest := text }

/-- Behind the next characters, of which none breaks the line. -/
def advance (c : Cursor) (n : Nat) : Cursor :=
  { c with rest := c.rest.drop n, index := c.index + n, column := c.column + n }

def next (c : Cursor) : Cursor := c.advance 1

def lineBreak? (c : Cursor) : Option (Char × Cursor) :=
  (Yaml.lineBreak? c.rest).map fun (char, rest) =>
    (char,
      { rest
        index := c.index + (c.rest.length - rest.length)
        line := c.line + 1
        column := 0 })

/-- The characters up to the first that fails the test, which holds of no line break. -/
def takeWhile (c : Cursor) (test : Char → Bool) : List Char × Cursor :=
  let run := c.rest.takeWhile test
  (run, c.advance run.length)

def skipGap (c : Cursor) : Cursor := (c.takeWhile isGap).2

/-- The place behind a comment, if one starts here. -/
def skipComment (c : Cursor) : Cursor :=
  if c.rest.head? = some '#' then (c.takeWhile fun ch => !isBreak ch).2 else c

def atMark (c : Cursor) : Bool := c.column == 0 && startsWithMark c.rest

def atEnd (c : Cursor) : Bool := c.rest.isEmpty

end Cursor

end BuildRemarks.Yaml
