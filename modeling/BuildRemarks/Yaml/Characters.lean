/-!
# Characters of a YAML stream

The classes of characters that the grammar tells apart, and the line breaks. A carriage
return with the line feed behind it is one break. All breaks stand for a line feed, but
for the line and paragraph separators, which stand for themselves.
-/

namespace BuildRemarks.Yaml

def isReadable (c : Char) : Bool :=
  let n := c.toNat
  n == 0x09 || n == 0x0A || n == 0x0D || (0x20 ≤ n && n ≤ 0x7E) || n == 0x85
    || (0xA0 ≤ n && n ≤ 0xD7FF) || (0xE000 ≤ n && n ≤ 0xFFFD) || 0x10000 ≤ n

/-- A space or a tabulator. -/
def isGap (c : Char) : Bool := c == ' ' || c == '\t'

def isSeparator (c : Char) : Bool := c.toNat == 0x2028 || c.toNat == 0x2029

def isBreak (c : Char) : Bool := c == '\n' || c == '\r' || c.toNat == 0x85 || isSeparator c

def isGapOrBreak (c : Char) : Bool := isGap c || isBreak c

/-- The text ends here, or its line does. -/
def atLineEnd : List Char → Bool
  | [] => true
  | c :: _ => isBreak c

/-- The text ends here, or a word does. -/
def atWordEnd : List Char → Bool
  | [] => true
  | c :: _ => isGapOrBreak c

def isIdentifierChar (c : Char) : Bool := c.isAlphanum || c == '_' || c == '-'

/-- A line break that a text starts with: what it stands for, and what follows. -/
def lineBreak? : List Char → Option (Char × List Char)
  | '\r' :: '\n' :: rest => some ('\n', rest)
  | c :: rest =>
    if isBreak c then some (if isSeparator c then c else '\n', rest) else none
  | [] => none

/-- The text starts with a document mark, three dashes or three points. -/
def startsWithMark : List Char → Bool
  | '-' :: '-' :: '-' :: rest => atWordEnd rest
  | '.' :: '.' :: '.' :: rest => atWordEnd rest
  | _ => false

end BuildRemarks.Yaml
