import BuildRemarks.Json.Strings
import BuildRemarks.Yaml.Cursor
import BuildRemarks.Yaml.Token

/-!
# Tags, anchors and directives

A tag is written in full between angle brackets, or as a suffix behind a handle that a
directive has given a meaning. Octets in a tag can be escaped by their hexadecimal
number; the escapes of one character stand together.
-/

namespace BuildRemarks.Yaml

/-- A character of a tag. Brackets and commas may only stand in a tag written in full. -/
def isTagChar (full : Bool) (c : Char) : Bool :=
  isIdentifierChar c
    || [';', '/', '?', ':', '@', '&', '=', '+', '$', '.', '!', '~', '*', '\'', '(', ')'].contains c
    || full && (c == ',' || c == '[' || c == ']')

def escapedOctet? : List Char → Option (Nat × List Char)
  | '%' :: a :: b :: rest => do
    let a ← Json.hexDigit? a
    let b ← Json.hexDigit? b
    some (16 * a + b, rest)
  | _ => none

/-- The number of octets of a character with this first octet. -/
def octetWidth? (n : Nat) : Option Nat :=
  if n < 0x80 then some 1
  else if 0xC0 ≤ n ∧ n < 0xE0 then some 2
  else if 0xE0 ≤ n ∧ n < 0xF0 then some 3
  else if 0xF0 ≤ n ∧ n < 0xF8 then some 4
  else none

def trailingOctets? : Nat → List Char → Option (Octets × List Char)
  | 0, cs => some ([], cs)
  | n + 1, cs => do
    let (octet, cs) ← escapedOctet? cs
    if 0x80 ≤ octet ∧ octet < 0xC0 then
      let (octets, cs) ← trailingOctets? n cs
      some (UInt8.ofNat octet :: octets, cs)
    else none

def escapedOctets? (cs : List Char) : Option (Octets × List Char) := do
  let (octet, cs) ← escapedOctet? cs
  let width ← octetWidth? octet
  let (octets, cs) ← trailingOctets? (width - 1) cs
  some (UInt8.ofNat octet :: octets, cs)

def tagText? (full : Bool) : (fuel : Nat) → List Char → Option (Octets × List Char)
  | 0, cs => some ([], cs)
  | _, [] => some ([], [])
  | fuel + 1, c :: cs =>
    if c == '%' then do
      let (octets, cs) ← escapedOctets? (c :: cs)
      let (more, cs) ← tagText? full fuel cs
      some (octets ++ more, cs)
    else if isTagChar full c then do
      let (more, cs) ← tagText? full fuel cs
      some (octetsOf [c] ++ more, cs)
    else some ([], c :: cs)

/-- The place whose rest is what is left of the line. -/
def Cursor.skipTo (c : Cursor) (rest : List Char) : Cursor :=
  c.advance (c.rest.length - rest.length)

def Cursor.tagText? (c : Cursor) (full : Bool) : Option (Octets × Cursor) :=
  (Yaml.tagText? full c.rest.length c.rest).map fun (octets, rest) => (octets, c.skipTo rest)

/-- A handle: an exclamation mark, or a name between two of them. A name without the
second mark is no handle but the start of a tag. -/
def handle? (c : Cursor) : Option (List Char × Cursor) :=
  match c.rest with
  | '!' :: _ =>
    let (name, c) := c.next.takeWhile isIdentifierChar
    if c.rest.head? = some '!' then some (['!'] ++ name ++ ['!'], c.next)
    else some ('!' :: name, c)
  | _ => none

def isNamedHandle (handle : List Char) : Bool :=
  decide (handle.length > 1) && handle.getLast? == some '!'

/-- The octets of a tag that count: a zero ends it. -/
def untilZero (octets : Octets) : Octets := octets.takeWhile (· != 0)

/-- Handle and suffix of a tag. A tag in full has an empty handle, and so has a single
exclamation mark. -/
def tagParts? (c : Cursor) : Option (Octets × Octets × Cursor) :=
  match c.rest with
  | '!' :: '<' :: _ => do
    let (suffix, c) ← (c.advance 2).tagText? true
    if suffix.isEmpty || c.rest.head? != some '>' then none
    else some ([], untilZero suffix, c.next)
  | _ => do
    let (handle, c) ← handle? c
    let (suffix, c) ← c.tagText? false
    if isNamedHandle handle then
      if suffix.isEmpty then none else some (octetsOf handle, untilZero suffix, c)
    else
      let suffix := untilZero (octetsOf (handle.drop 1) ++ suffix)
      if suffix.isEmpty then some ([], octetsOf ['!'], c) else some (octetsOf ['!'], suffix, c)

def tag? (inFlow : Bool) (c : Cursor) : Option (Token × Cursor) := do
  let (handle, suffix, c) ← tagParts? c
  if atWordEnd c.rest || inFlow && c.rest.head? == some ',' then some (.tag handle suffix, c)
  else none

def endsAnchor : List Char → Bool
  | [] => true
  | c :: _ => isGapOrBreak c || ['?', ':', ',', ']', '\x7d', '%', '@', '\x60'].contains c

def anchorName? (c : Cursor) : Option (String × Cursor) :=
  let (name, c) := c.next.takeWhile isIdentifierChar
  if name.isEmpty || !endsAnchor c.rest then none else some (.ofList name, c)

/-- A number of a version, of at most nine digits. -/
def versionNumber? (c : Cursor) : Option (Nat × Cursor) :=
  let (digits, c) := c.takeWhile Char.isDigit
  if digits.isEmpty || decide (digits.length > 9) then none
  else some (digits.foldl (fun n d => 10 * n + (d.toNat - '0'.toNat)) 0, c)

def versionDirective? (c : Cursor) : Option (Token × Cursor) := do
  let (major, c) ← versionNumber? c.skipGap
  if c.rest.head? = some '.' then
    let (minor, c) ← versionNumber? c.next
    some (.version major minor, c)
  else none

def handleDirective? (c : Cursor) : Option (Token × Cursor) := do
  let (handle, c) ← handle? c.skipGap
  if handle ≠ ['!'] ∧ !isNamedHandle handle then none
  else match c.rest with
    | ch :: _ =>
      if isGap ch then do
        let (lead, c) ← c.skipGap.tagText? true
        if lead.isEmpty || !atWordEnd c.rest then none
        else some (.handle (octetsOf handle) (untilZero lead), c)
      else none
    | [] => none

/-- A directive, from its percent sign on, and the start of the next line. -/
def directive? (c : Cursor) : Option (Token × Cursor) := do
  let (name, c) := c.next.takeWhile isIdentifierChar
  if !atWordEnd c.rest then none
  else
    let (token, c) ←
      if name = "YAML".toList then versionDirective? c
      else if name = "TAG".toList then handleDirective? c
      else none
    let c := c.skipGap.skipComment
    if !atLineEnd c.rest then none else some (token, (c.lineBreak?.map (·.2)).getD c)

end BuildRemarks.Yaml
