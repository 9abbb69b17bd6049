import BuildRemarks.Text.Lines

/-!
# Tokens of a YAML stream

The structure of a stream is read from its tokens. Where the indentation shows the
structure, the tokens say so.
-/

namespace BuildRemarks.Yaml

/-- The octets of a tag or of a part of one. Its escapes need not make up characters. -/
abbrev Octets := Text.Bytes

def octetsOf (cs : List Char) : Octets := (String.ofList cs).toUTF8.toList

inductive Token where
  | version (major minor : Nat)
  /-- A directive that lets a handle stand for the start of a tag. -/
  | handle (handle lead : Octets)
  | documentStart
  | documentEnd
  | blockSequence
  | blockMapping
  | blockEnd
  | flowSequence
  | flowSequenceEnd
  | flowMapping
  | flowMappingEnd
  | item
  | comma
  | key
  | value
  | aliasOf (name : String)
  | anchor (name : String)
  | tag (handle suffix : Octets)
  /-- `plain` tells a scalar without quotes or block indicator. -/
  | scalar (text : String) (plain : Bool)
  deriving DecidableEq

def Token.isDirective : Token → Bool
  | version .. | handle .. => true
  | _ => false

end BuildRemarks.Yaml
