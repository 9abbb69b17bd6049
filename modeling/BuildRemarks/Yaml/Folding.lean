import BuildRemarks.Yaml.Cursor

/-!
# Folded lines

Between two parts of a scalar may stand blanks and line breaks. Blanks without a break
stay as they are. With a break they fold: one break becomes a space, and of several all
but the first stay.
-/

namespace BuildRemarks.Yaml

/-- What stands between two parts of a scalar. -/
structure Fold where
  /-- The blanks before the first break. -/
  blanks : List Char := []
  /-- The first break, of which an escaped one leaves nothing. -/
  first : Option (List Char) := none
  others : List Char := []

namespace Fold

def none : Fold := {}

def escaped : Fold := { first := some [] }

def broken (f : Fold) : Bool := f.first.isSome

/-- What the parts are joined by. -/
def text (f : Fold) : List Char :=
  match f.first with
  | .none => f.blanks
  | some ['\n'] => if f.others.isEmpty then [' '] else f.others
  | some first => first ++ f.others

/-- One more blank. Behind a break blanks do not count. -/
def addBlank (f : Fold) (c : Char) : Fold :=
  if f.broken then f else { f with blanks := f.blanks ++ [c] }

def addBreak (f : Fold) (c : Char) : Fold :=
  match f.first with
  | .none => { first := some [c] }
  | some _ => { f with others := f.others ++ [c] }

end Fold

/-- Goes on with blanks and breaks. Behind a break no tabulator may stand left of the
column `floor`. -/
def foldFrom (floor : Nat) : (fuel : Nat) → Fold → Cursor → Option (Fold × Cursor)
  | 0, f, c => some (f, c)
  | fuel + 1, f, c =>
    match c.rest with
    | [] => some (f, c)
    | ch :: _ =>
      if isGap ch then
        if f.broken && ch == '\t' && decide (c.column < floor) then none
        else foldFrom floor fuel (f.addBlank ch) c.next
      else match c.lineBreak? with
        | none => some (f, c)
        | some (br, c) => foldFrom floor fuel (f.addBreak br) c

def readFold (floor : Nat) (f : Fold) (c : Cursor) : Option (Fold × Cursor) :=
  foldFrom floor (c.rest.length + 1) f c

end BuildRemarks.Yaml
