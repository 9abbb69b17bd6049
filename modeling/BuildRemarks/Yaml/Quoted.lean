import BuildRemarks.Json.Strings
import BuildRemarks.Yaml.Folding

/-!
# Quoted scalars

Between single quotes a quote is written twice and nothing else is escaped. Between
double quotes a backslash escapes, also a line break. In both lines are folded, and no
document mark may start a line.
-/

namespace BuildRemarks.Yaml

structure Stretch where
  text : List Char
  /-- The number of characters it takes. -/
  length : Nat
  /-- It ends before an escaped line break. -/
  escapesBreak : Bool := false

/-- A character in front of a stretch, written with `n` characters. -/
def Stretch.cons (c : Char) (n : Nat) (s : Stretch) : Stretch :=
  { s with text := c :: s.text, length := s.length + n }

def Stretch.empty : Stretch := ⟨[], 0, false⟩

/-- A stretch between single quotes, up to a blank, a break or the closing quote. -/
def singleStretch : List Char → Stretch
  | [] => .empty
  | '\'' :: '\'' :: rest => (singleStretch rest).cons '\'' 2
  | c :: rest =>
    if isGapOrBreak c || c == '\'' then .empty else (singleStretch rest).cons c 1

def escapedChar? : Char → Option Char
  | '0' => some '\x00'
  | 'a' => some '\x07'
  | 'b' => some '\x08'
  | 't' | '\t' => some '\t'
  | 'n' => some '\n'
  | 'v' => some '\x0b'
  | 'f' => some '\x0c'
  | 'r' => some '\r'
  | 'e' => some '\x1b'
  | ' ' => some ' '
  | '"' => some '"'
  | '/' => some '/'
  | '\\' => some '\\'
  | 'N' => some '\u0085'
  | '_' => some '\u00a0'
  | 'L' => some '\u2028'
  | 'P' => some '\u2029'
  | _ => none

def hexChar? (digits : List Char) : Option Char := do
  let digits ← digits.mapM Json.hexDigit?
  let n := digits.foldl (fun n d => 16 * n + d) 0
  if n.isValidChar then some (Char.ofNat n) else none

/-- A stretch between double quotes, up to a blank, a break, an escaped break or the
closing quote. -/
def doubleStretch : List Char → Option Stretch
  | [] => some .empty
  | '\\' :: 'x' :: a :: b :: rest => do
    let ch ← hexChar? [a, b]
    (·.cons ch 4) <$> doubleStretch rest
  | '\\' :: 'u' :: a :: b :: c :: d :: rest => do
    let ch ← hexChar? [a, b, c, d]
    (·.cons ch 6) <$> doubleStretch rest
  | '\\' :: 'U' :: a :: b :: c :: d :: e :: f :: g :: h :: rest => do
    let ch ← hexChar? [a, b, c, d, e, f, g, h]
    (·.cons ch 10) <$> doubleStretch rest
  | '\\' :: c :: rest =>
    if isBreak c then some ⟨[], 0, true⟩
    else do
      let ch ← escapedChar? c
      (·.cons ch 2) <$> doubleStretch rest
  | c :: rest =>
    if isGapOrBreak c || c == '"' then some .empty
    else (·.cons c 1) <$> doubleStretch rest

def quotedFrom (quote : Char) (stretch : List Char → Option Stretch) :
    (fuel : Nat) → Cursor → Option (List Char × Cursor)
  | 0, _ => none
  | fuel + 1, c =>
    if c.atMark || c.atEnd then none
    else do
      let s ← stretch c.rest
      let c := c.advance s.length
      if c.rest.head? = some quote then some (s.text, c.next)
      else
        let (f, c) ←
          if s.escapesBreak then do
            let (_, c) ← c.next.lineBreak?
            readFold 0 .escaped c
          else readFold 0 .none c
        let (more, c) ← quotedFrom quote stretch fuel c
        some (s.text ++ f.text ++ more, c)

def quoted? (c : Cursor) : Option (List Char × Cursor) :=
  if c.rest.head? = some '\'' then
    quotedFrom '\'' (fun cs => some (singleStretch cs)) (c.rest.length + 1) c.next
  else quotedFrom '"' doubleStretch (c.rest.length + 1) c.next

end BuildRemarks.Yaml
