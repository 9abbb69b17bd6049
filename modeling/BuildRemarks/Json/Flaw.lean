import BuildRemarks.Decimal.Layout
import BuildRemarks.Text.Quoted

/-!
# Flaws of a JSON text

What can be wrong with a JSON text that is read as a value of some type: the text is
not JSON, it holds something else than the type asks for, or its members are not those
of the record. `Flaw.message` words them.
-/

namespace BuildRemarks.Json

inductive Found where
  | null
  | boolean (b : Bool)
  | integer (n : Int)
  | float (x : Float)
  | text (s : String)
  | sequence
  | map

inductive Flaw where
  | endOfList
  | endOfObject
  | endOfString
  | endOfValue
  | expectedColon
  | expectedListSeparator
  | expectedObjectSeparator
  | expectedLiteral
  | expectedValue
  | invalidEscape
  | invalidNumber
  | numberOutOfRange
  | controlCharacter
  | nameNotString
  | loneSurrogate
  | cutSurrogate
  | trailingComma
  | trailingCharacters
  | tooDeep
  | notUnicode
  | mismatch (found : Found) (expected : String)
  | outOfRange (n : Int) (expected : String)
  | wrongLength (n : Nat) (expected : String)
  | missingMember (name : String)
  | repeatedMember (name : String)
  | unknownMember (name : String) (known : List String)
  | unknownVariant (name : String) (known : List String)
  | offsetOverflow
  | timeOverflow

/-- A floating-point number in a message: positional from `1e-5` up to below `1e16`. -/
def messageLayout : Decimal.Layout := ⟨-5, 15, true⟩

def named (name : String) : String := s!"`{name}`"

/-- The names that would have been right. -/
def oneOf : List String → String
  | [] => "nothing"
  | [a] => named a
  | [a, b] => named a ++ " or " ++ named b
  | names => "one of " ++ ", ".intercalate (names.map named)

def Found.message : Found → String
  | .null => "null"
  | .boolean b => "boolean " ++ named (if b then "true" else "false")
  | .integer n => "integer " ++ named (toString n)
  | .float x => "floating point " ++ named (messageLayout.write x)
  | .text s => "string " ++ Text.quoted s
  | .sequence => "sequence"
  | .map => "map"

def Flaw.message : Flaw → String
  | .endOfList => "EOF while parsing a list"
  | .endOfObject => "EOF while parsing an object"
  | .endOfString => "EOF while parsing a string"
  | .endOfValue => "EOF while parsing a value"
  | .expectedColon => "expected `:`"
  | .expectedListSeparator => "expected `,` or `]`"
  | .expectedObjectSeparator => "expected `,` or `\x7d`"
  | .expectedLiteral => "expected ident"
  | .expectedValue => "expected value"
  | .invalidEscape => "invalid escape"
  | .invalidNumber => "invalid number"
  | .numberOutOfRange => "number out of range"
  | .controlCharacter =>
    "control character (\\u0000-\\u001F) found while parsing a string"
  | .nameNotString => "key must be a string"
  | .loneSurrogate => "lone leading surrogate in hex escape"
  | .cutSurrogate => "unexpected end of hex escape"
  | .trailingComma => "trailing comma"
  | .trailingCharacters => "trailing characters"
  | .tooDeep => "recursion limit exceeded"
  | .notUnicode => "invalid unicode code point"
  | .mismatch found expected => "invalid type: " ++ found.message ++ ", expected " ++ expected
  | .outOfRange n expected =>
    "invalid value: integer " ++ named (toString n) ++ ", expected " ++ expected
  | .wrongLength n expected => "invalid length " ++ toString n ++ ", expected " ++ expected
  | .missingMember name => "missing field " ++ named name
  | .repeatedMember name => "duplicate field " ++ named name
  | .unknownMember name known =>
    "unknown field " ++ named name ++ ", expected " ++ oneOf known
  | .unknownVariant name known =>
    "unknown variant " ++ named name ++ ", expected " ++ oneOf known
  | .offsetOverflow => "overflow deserializing SystemTime epoch offset"
  | .timeOverflow => "overflow deserializing SystemTime"

end BuildRemarks.Json
