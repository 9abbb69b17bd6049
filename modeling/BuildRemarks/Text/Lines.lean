/-!
# Lines of a byte stream

A line ends at a line feed, and a carriage return right before that belongs to the
ending. What stands behind the last line feed is a line too unless it is empty. A
stream has lines of text only if each of its lines is well-formed UTF-8.
-/

namespace BuildRemarks.Text

abbrev Bytes := List UInt8

def decode? (bytes : Bytes) : Option String :=
  String.fromUTF8? ⟨bytes.toArray⟩

/-- The lines of a stream, without their endings. -/
def rawLines : Bytes → List Bytes
  | [] => []
  | b :: rest =>
    if b = 0x0A then [] :: rawLines rest
    else if b = 0x0D ∧ rest.head? = some 0x0A then rawLines rest
    else match rawLines rest with
      | [] => [[b]]
      | line :: lines => (b :: line) :: lines

/-- The lines of a stream as text, if all of them are text. -/
def lines? (bytes : Bytes) : Option (List String) := (rawLines bytes).mapM decode?

theorem rawLines_newline (rest : Bytes) : rawLines (0x0A :: rest) = [] :: rawLines rest := by
  simp only [rawLines, if_true]

end BuildRemarks.Text
