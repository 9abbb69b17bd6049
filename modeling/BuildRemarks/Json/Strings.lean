import BuildRemarks.Json.Flaw

/-!
# Strings of a JSON text

The content of a string, from behind its opening quote. An escape of a code point
outside the basic plane is a pair of surrogates.
-/

namespace BuildRemarks.Json

def hexDigit? (c : Char) : Option Nat :=
  if c.isDigit then some (c.toNat - '0'.toNat)
  else if 'a' ≤ c ∧ c ≤ 'f' then some (c.toNat - 'a'.toNat + 10)
  else if 'A' ≤ c ∧ c ≤ 'F' then some (c.toNat - 'A'.toNat + 10)
  else none

def hexFour? (a b c d : Char) : Option Nat := do
  let a ← hexDigit? a
  let b ← hexDigit? b
  let c ← hexDigit? c
  let d ← hexDigit? d
  pure (((a * 16 + b) * 16 + c) * 16 + d)

def shortEscape? : Char → Option Char
  | '"' => some '"'
  | '\\' => some '\\'
  | '/' => some '/'
  | 'b' => some '\x08'
  | 'f' => some '\x0c'
  | 'n' => some '\n'
  | 'r' => some '\r'
  | 't' => some '\t'
  | _ => none

/-- The unit is the first half of a pair. -/
def isLeading (n : Nat) : Bool := decide (0xD800 ≤ n) && decide (n ≤ 0xDBFF)

def isTrailing (n : Nat) : Bool := decide (0xDC00 ≤ n) && decide (n ≤ 0xDFFF)

/-- The code point of a pair. -/
def pairValue (n m : Nat) : Nat := 0x10000 + (n - 0xD800) * 0x400 + (m - 0xDC00)

def byteLength : List Char → Nat
  | [] => 0
  | c :: cs => c.utf8Size + byteLength cs

/-- The flaw of an escape that does not go on with four hexadecimal digits. -/
def hexFlaw (rest : List Char) : Flaw :=
  if byteLength rest < 4 then .endOfString else .invalidEscape

def consContent (c : Char) (r : Except Flaw (List Char × List Char)) :
    Except Flaw (List Char × List Char) :=
  r.map fun p => (c :: p.1, p.2)

/-- The content of a string up to the closing quote, and what follows that. -/
def readString : List Char → Except Flaw (List Char × List Char)
  | [] => .error .endOfString
  | '"' :: rest => .ok ([], rest)
  | '\\' :: 'u' :: rest =>
    match rest with
    | a :: b :: c :: d :: rest' =>
      match hexFour? a b c d with
      | none => .error .invalidEscape
      | some n =>
        if isTrailing n then .error .loneSurrogate
        else if isLeading n then
          match rest' with
          | [] => .error .endOfString
          | '\\' :: [] => .error .endOfString
          | '\\' :: 'u' :: more =>
            match more with
            | a' :: b' :: c' :: d' :: rest'' =>
              match hexFour? a' b' c' d' with
              | none => .error .invalidEscape
              | some m =>
                if isTrailing m then
                  consContent (Char.ofNat (pairValue n m)) (readString rest'')
                else .error .loneSurrogate
            | short => .error (hexFlaw short)
          | _ => .error .cutSurrogate
        else consContent (Char.ofNat n) (readString rest')
    | short => .error (hexFlaw short)
  | '\\' :: c :: rest =>
    match shortEscape? c with
    | some d => consContent d (readString rest)
    | none => .error .invalidEscape
  | '\\' :: [] => .error .endOfString
  | c :: rest =>
    if c.toNat < 0x20 then .error .controlCharacter else consContent c (readString rest)

/-- What follows the closing quote of a string whose escapes need not be characters. -/
def passString : List Char → Except Flaw (List Char)
  | [] => .error .endOfString
  | '"' :: rest => .ok rest
  | '\\' :: 'u' :: rest =>
    match rest with
    | a :: b :: c :: d :: rest' =>
      match hexFour? a b c d with
      | none => .error .invalidEscape
      | some _ => passString rest'
    | short => .error (hexFlaw short)
  | '\\' :: c :: rest =>
    match shortEscape? c with
    | some _ => passString rest
    | none => .error .invalidEscape
  | '\\' :: [] => .error .endOfString
  | c :: rest => if c.toNat < 0x20 then .error .controlCharacter else passString rest

theorem readString_quote (rest : List Char) : readString ('"' :: rest) = .ok ([], rest) := by
  rw [readString]

end BuildRemarks.Json
