import BuildRemarks.Yaml.Block
import BuildRemarks.Yaml.Plain
import BuildRemarks.Yaml.Quoted
import BuildRemarks.Yaml.Tags

/-!
# From text to tokens

Outside brackets the columns of the lines show the blocks of a stream, and a text turns
out to be a key only at the colon behind it. So the lexer keeps the columns of the open
blocks, and for every bracket that is open the last place where a key could have begun;
at the colon the tokens of a key are put in there.
-/

namespace BuildRemarks.Yaml

/-- A place where a key may have begun. -/
structure KeyPlace where
  tokens : Nat
  index : Nat
  line : Nat
  column : Nat
  /-- It has to be a key, since it stands at the column of a block. -/
  required : Bool

structure Lexer where
  cursor : Cursor
  /-- The tokens, the last one first. -/
  tokens : List Token := []
  /-- The place of a key at this level of brackets. -/
  place : Option KeyPlace := none
  /-- The places of keys at the levels around it. -/
  outer : List (Option KeyPlace) := []
  /-- The column of the innermost block, −1 outside all blocks. -/
  indent : Int := -1
  indents : List Int := []
  keyAllowed : Bool := true

namespace Lexer

def inFlow (l : Lexer) : Bool := !l.outer.isEmpty

def emit (l : Lexer) (t : Token) : Lexer := { l with tokens := t :: l.tokens }

/-- A token behind the first `n`. -/
def insert (l : Lexer) (n : Nat) (t : Token) : Lexer :=
  let (after, before) := l.tokens.splitAt (l.tokens.length - n)
  { l with tokens := after ++ t :: before }

def take (l : Lexer) (n : Nat) (t : Token) : Lexer :=
  { l.emit t with cursor := l.cursor.advance n }

/-- Skips blanks, comments and line breaks. Tabulators count as blanks where no key may
begin, and in brackets; `fuel` bounds the number of lines. -/
def skipToToken : (fuel : Nat) → Lexer → Lexer
  | 0, l => l
  | fuel + 1, l =>
    let tabs := l.inFlow || !l.keyAllowed
    let (_, c) := l.cursor.takeWhile fun ch => ch == ' ' || tabs && ch == '\t'
    match c.skipComment.lineBreak? with
    | none => { l with cursor := c.skipComment }
    | some (_, c) =>
      skipToToken fuel { l with cursor := c, keyAllowed := l.keyAllowed || !l.inFlow }

/-- A key ends on the line where it begins and is not longer than 1024 characters. -/
def KeyPlace.isStale (p : KeyPlace) (c : Cursor) : Bool :=
  decide (p.line < c.line) || decide (p.index + 1024 < c.index)

/-- A place without the key that can no longer begin there. -/
def freshPlace? (c : Cursor) : Option KeyPlace → Option (Option KeyPlace)
  | none => some none
  | some p => if KeyPlace.isStale p c then (if p.required then none else some none) else some p

/-- Forgets the places of keys that are too far away. -/
def dropStale? (l : Lexer) : Option Lexer := do
  let place ← freshPlace? l.cursor l.place
  let outer ← l.outer.mapM (freshPlace? l.cursor)
  some { l with place, outer }

/-- Forgets the place of a key at this level, which must not have to be one. -/
def dropPlace? (l : Lexer) : Option Lexer :=
  match l.place with
  | some p => if p.required then none else some { l with place := none }
  | none => some l

def savePlace? (l : Lexer) : Option Lexer :=
  if l.keyAllowed then do
    let c := l.cursor
    let required := !l.inFlow && decide (l.indent = c.column)
    let l ← l.dropPlace?
    some { l with place := some ⟨l.tokens.length, c.index, c.line, c.column, required⟩ }
  else some l

/-- Opens a block at a column right of the innermost block; its token comes behind the
first `n`. -/
def openBlock (l : Lexer) (column : Nat) (n : Nat) (t : Token) : Lexer :=
  if !l.inFlow && decide (l.indent < column) then
    { l.insert n t with indent := column, indents := l.indent :: l.indents }
  else l

def closeBlocksFrom (column : Int) : Int → List Int → Lexer → Lexer
  | indent, outer :: indents, l =>
    if indent > column then
      closeBlocksFrom column outer indents { l.emit .blockEnd with indent := outer, indents }
    else l
  | _, [], l => l

/-- Closes the blocks right of a column, unless brackets are open. -/
def closeBlocks (l : Lexer) (column : Int) : Lexer :=
  if l.inFlow then l else closeBlocksFrom column l.indent l.indents l

def directive? (l : Lexer) : Option Lexer := do
  let l ← (l.closeBlocks (-1)).dropPlace?
  let (token, cursor) ← Yaml.directive? l.cursor
  some { l.emit token with cursor, keyAllowed := false }

def documentMark? (l : Lexer) (t : Token) : Option Lexer := do
  let l ← (l.closeBlocks (-1)).dropPlace?
  some { l.take 3 t with keyAllowed := false }

def openFlow? (l : Lexer) (t : Token) : Option Lexer := do
  let l ← l.savePlace?
  some { l.take 1 t with place := none, outer := l.place :: l.outer, keyAllowed := true }

def closeFlow? (l : Lexer) (t : Token) : Option Lexer := do
  let l ← l.dropPlace?
  let l := match l.outer with
    | place :: outer => { l with place, outer }
    | [] => l
  some { l.take 1 t with keyAllowed := false }

def comma? (l : Lexer) : Option Lexer := do
  let l ← l.dropPlace?
  some { l.take 1 .comma with keyAllowed := true }

/-- Opens a block here unless brackets are open. It is refused where no key may begin. -/
def blockHere? (l : Lexer) (t : Token) : Option Lexer :=
  if l.inFlow then some l
  else if l.keyAllowed then some (l.openBlock l.cursor.column l.tokens.length t)
  else none

def item? (l : Lexer) : Option Lexer := do
  let l ← l.blockHere? .blockSequence
  let l ← l.dropPlace?
  some { l.take 1 .item with keyAllowed := true }

def key? (l : Lexer) : Option Lexer := do
  let l ← l.blockHere? .blockMapping
  let l ← l.dropPlace?
  some { l.take 1 .key with keyAllowed := !l.inFlow }

def value? (l : Lexer) : Option Lexer :=
  match l.place with
  | some p =>
    let l := (l.insert p.tokens .key).openBlock p.column p.tokens .blockMapping
    some { l.take 1 .value with place := none, keyAllowed := false }
  | none => do
    let l ← l.blockHere? .blockMapping
    some { l.take 1 .value with keyAllowed := !l.inFlow }

def anchor? (l : Lexer) (token : String → Token) : Option Lexer := do
  let l ← l.savePlace?
  let (name, cursor) ← anchorName? l.cursor
  some { l.emit (token name) with cursor, keyAllowed := false }

def tag? (l : Lexer) : Option Lexer := do
  let l ← l.savePlace?
  let (token, cursor) ← Yaml.tag? l.inFlow l.cursor
  some { l.emit token with cursor, keyAllowed := false }

def block? (l : Lexer) : Option Lexer := do
  let l ← l.dropPlace?
  let (text, cursor) ← Yaml.block? l.indent l.cursor
  some { l.emit (.scalar (.ofList text) false) with cursor, keyAllowed := true }

def quoted? (l : Lexer) : Option Lexer := do
  let l ← l.savePlace?
  let (text, cursor) ← Yaml.quoted? l.cursor
  some { l.emit (.scalar (.ofList text) false) with cursor, keyAllowed := false }

def plain? (l : Lexer) : Option Lexer := do
  let l ← l.savePlace?
  let s ← Yaml.plain? l.inFlow (l.indent + 1).toNat l.cursor
  some { l.emit (.scalar (.ofList s.text) true) with cursor := s.cursor, keyAllowed := s.broken }

/-- No plain scalar starts with one of these characters, but for some of the first three. -/
def indicators : List Char :=
  ['-', '?', ':', ',', '[', ']', '\x7b', '\x7d', '#', '&', '*', '!', '|', '>', '\'', '"',
    '%', '@', '\x60']

def startsPlain (inFlow : Bool) : List Char → Bool
  | [] => false
  | c :: rest =>
    !(isGapOrBreak c || indicators.contains c)
      || c == '-' && !(rest.head?.map isGap).getD false
      || !inFlow && (c == '?' || c == ':') && !atWordEnd rest

def token? (l : Lexer) (c : Char) (rest : List Char) : Option Lexer :=
  let first := l.cursor.column == 0
  if first && c == '%' then l.directive?
  else if first && c == '-' && startsWithMark (c :: rest) then l.documentMark? .documentStart
  else if first && c == '.' && startsWithMark (c :: rest) then l.documentMark? .documentEnd
  else if c == '[' then l.openFlow? .flowSequence
  else if c == '\x7b' then l.openFlow? .flowMapping
  else if c == ']' then l.closeFlow? .flowSequenceEnd
  else if c == '\x7d' then l.closeFlow? .flowMappingEnd
  else if c == ',' then l.comma?
  else if c == '-' && atWordEnd rest then l.item?
  else if c == '?' && (l.inFlow || atWordEnd rest) then l.key?
  else if c == ':' && (l.inFlow || atWordEnd rest) then l.value?
  else if c == '*' then l.anchor? .aliasOf
  else if c == '&' then l.anchor? .anchor
  else if c == '!' then l.tag?
  else if (c == '|' || c == '>') && !l.inFlow then l.block?
  else if c == '\'' || c == '"' then l.quoted?
  else if startsPlain l.inFlow (c :: rest) then l.plain?
  else none

def finish? (l : Lexer) : Option (List Token) := do
  let l ← (l.closeBlocks (-1)).dropPlace?
  some l.tokens.reverse

/-- Reads the tokens from here on; `fuel` bounds their number. -/
def run : (fuel : Nat) → Lexer → Option (List Token)
  | 0, _ => none
  | fuel + 1, l => do
    let l ← (skipToToken (l.cursor.rest.length + 1) l).dropStale?
    let l := l.closeBlocks l.cursor.column
    match l.cursor.rest with
    | [] => l.finish?
    | c :: rest =>
      let l ← l.token? c rest
      run fuel l

end Lexer

def skipByteOrderMark (c : Cursor) : Cursor :=
  if c.rest.head? = some '\ufeff' then c.next else c

def tokens? (text : List Char) : Option (List Token) :=
  if text.all isReadable then
    Lexer.run (text.length + 1) { cursor := skipByteOrderMark (.start text) }
  else none

end BuildRemarks.Yaml
