import BuildRemarks.Json.Value
import BuildRemarks.Decimal.Layout

/-!
# Printed JSON values

The text of a value, without spaces. Floating-point numbers are printed as the shortest
decimals that read back.
-/

namespace BuildRemarks.Json

/-- Floating-point numbers in a document: positional from `1e-5` up to below `1e16`. -/
def documentLayout : Decimal.Layout := ⟨-5, 15, false⟩

def fourHex (n : Nat) : List Char :=
  let digits := Nat.toDigits 16 n
  List.replicate (4 - digits.length) '0' ++ digits

def printChar (c : Char) : List Char :=
  if c = '"' then ['\\', '"']
  else if c = '\\' then ['\\', '\\']
  else if c = '\n' then ['\\', 'n']
  else if c = '\r' then ['\\', 'r']
  else if c = '\t' then ['\\', 't']
  else if c = '\x08' then ['\\', 'b']
  else if c = '\x0c' then ['\\', 'f']
  else if c.toNat < 0x20 then ['\\', 'u'] ++ fourHex c.toNat
  else [c]

def printString (s : String) : String :=
  .ofList (['"'] ++ s.toList.flatMap printChar ++ ['"'])

def printNumber : Number → String
  | .integer n => toString n.val
  | .float x => documentLayout.write x

namespace Value

mutual

def print : Value → String
  | null => "null"
  | bool b => if b then "true" else "false"
  | number n => printNumber n
  | string s => printString s
  | array vs => "[" ++ printElements vs ++ "]"
  | object ms => "\x7b" ++ printMembers ms ++ "\x7d"

def printElements : List Value → String
  | [] => ""
  | [v] => print v
  | v :: vs => print v ++ "," ++ printElements vs

def printMembers : List (String × Value) → String
  | [] => ""
  | [(name, v)] => printString name ++ ":" ++ print v
  | (name, v) :: ms => printString name ++ ":" ++ print v ++ "," ++ printMembers ms

end

end Value

end BuildRemarks.Json
