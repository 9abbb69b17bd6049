import BuildRemarks.Json.Numerals
import BuildRemarks.Json.Source
import BuildRemarks.Json.Strings

/-!
# Reading JSON texts as trees

`Source.ofText` makes the tree of a text and says what follows the value. Nothing
follows a value that can be neither read nor passed over.
-/

namespace BuildRemarks.Json

def isSpace (c : Char) : Bool := c == ' ' || c == '\n' || c == '\t' || c == '\r'

def skipSpaces (cs : List Char) : List Char := cs.dropWhile isSpace

/-- Arrays and objects at this level of nesting are too deep. -/
def depthLimit : Nat := 128

/-- A part of a tree, and the text behind it. -/
abbrev Piece := Source × Option (List Char)

/-- A part that can be neither read nor passed over. -/
def Piece.stop (flaw : Flaw) : Piece := (.unreadable flaw (some flaw), none)

/-- A literal, of which `letters` are still to come. -/
def literal (value : Source) : (letters : List Char) → List Char → Piece
  | [], cs => (value, some cs)
  | _ :: _, [] => (.misspelt .endOfValue (some .endOfValue), none)
  | l :: ls, c :: cs =>
    if c = l then literal value ls cs
    else (.misspelt .expectedLiteral (some .expectedLiteral), none)

def numberPiece (cs : List Char) : Piece :=
  match spell cs with
  | .error flaw => (.misspelt flaw (some .invalidNumber), none)
  | .ok (numeral, rest) =>
    match numeral.value with
    | .ok n => (.number n, some rest)
    | .error flaw => (.misspelt flaw none, some rest)

/-- A string, from behind its opening quote. -/
def stringPiece (cs : List Char) : Piece :=
  match readString cs with
  | .ok (content, rest) => (.string (.ofList content), some rest)
  | .error flaw =>
    match passString cs with
    | .ok rest => (.unreadable flaw none, some rest)
    | .error pass => (.unreadable flaw (some pass), none)

def atLevel (level : Nat) (s : Source) : Source := if level < depthLimit then s else .deep s

mutual

/-- The value that a text starts with; `level` counts the brackets it opens in. -/
def value : (fuel : Nat) → (level : Nat) → List Char → Piece
  | 0, _, _ => .stop .endOfValue
  | fuel + 1, level, cs =>
    match skipSpaces cs with
    | [] => .stop .endOfValue
    | 'n' :: rest => literal .null ['u', 'l', 'l'] rest
    | 't' :: rest => literal (.bool true) ['r', 'u', 'e'] rest
    | 'f' :: rest => literal (.bool false) ['a', 'l', 's', 'e'] rest
    | '"' :: rest => stringPiece rest
    | '[' :: rest =>
      match skipSpaces rest with
      | [] => (atLevel level (.array [] .endOfText), none)
      | ']' :: rest => (atLevel level (.array [] .closed), some rest)
      | rest =>
        let (items, ending, rest) := elements fuel (level + 1) rest
        (atLevel level (.array items ending), rest)
    | '\x7b' :: rest =>
      match skipSpaces rest with
      | [] => (atLevel level (.object [] .endOfText), none)
      | '\x7d' :: rest => (atLevel level (.object [] .closed), some rest)
      | rest =>
        let (items, ending, rest) := members fuel (level + 1) rest
        (atLevel level (.object items ending), rest)
    | c :: rest =>
      if c = '-' ∨ c.isDigit then numberPiece (c :: rest) else .stop .expectedValue

def elements : (fuel : Nat) → (level : Nat) → List Char →
    List Source × ArrayEnd × Option (List Char)
  | 0, _, _ => ([], .endOfText, none)
  | fuel + 1, level, cs =>
    match value fuel level cs with
    | (first, none) => ([first], .closed, none)
    | (first, some rest) =>
      match skipSpaces rest with
      | [] => ([first], .endOfText, none)
      | ']' :: rest => ([first], .closed, some rest)
      | ',' :: rest =>
        match skipSpaces rest with
        | ']' :: _ => ([first], .comma, none)
        | rest =>
          let (items, ending, rest) := elements fuel level rest
          (first :: items, ending, rest)
      | _ => ([first], .stray, none)

/-- One or more members of an object, up to its end. -/
def members : (fuel : Nat) → (level : Nat) → List Char →
    List (Except Flaw String × Source) × ObjectEnd × Option (List Char)
  | 0, _, _ => ([], .endOfText, none)
  | fuel + 1, level, cs =>
    match skipSpaces cs with
    | '"' :: rest =>
      match (readString rest).map (fun p => String.ofList p.1), passString rest with
      | .error flaw, .error pass => ([], .badName flaw pass, none)
      | .ok _, .error pass => ([], .badName pass pass, none)
      | name, .ok rest =>
        match skipSpaces rest with
        | ':' :: rest =>
          match value fuel level rest with
          | (first, none) => ([(name, first)], .closed, none)
          | (first, some rest) =>
            match skipSpaces rest with
            | [] => ([(name, first)], .endOfText, none)
            | '\x7d' :: rest => ([(name, first)], .closed, some rest)
            | ',' :: rest =>
              match skipSpaces rest with
              | [] => ([(name, first)], .endBehindComma, none)
              | '\x7d' :: _ => ([(name, first)], .comma, none)
              | rest =>
                let (items, ending, rest) := members fuel level rest
                ((name, first) :: items, ending, rest)
            | _ => ([(name, first)], .stray, none)
        | [] => ([(name, .unreadable .endOfObject (some .endOfObject))], .closed, none)
        | _ => ([(name, .unreadable .expectedColon (some .expectedColon))], .closed, none)
    | rest => ([], .noName (value fuel level rest).1.found, none)

end

/-- The tree of a text, and what follows the value. -/
def Source.ofText (cs : List Char) : Piece := value (2 * cs.length + 2) 1 cs

end BuildRemarks.Json
