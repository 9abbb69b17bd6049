import BuildRemarks.Proofs.Printed.InliningMessage
import BuildRemarks.Proofs.Text.SignedNumerals
import BuildRemarks.Proofs.Text.Trimming

/-!
# The grammar of places

Which texts are read as a place, said without the reader: between blanks a file that may itself
hold colons, and behind it line and column, each a numeral of 32 bits behind a colon. The last
two colons of a text are the only ones that can divide it so.
-/

namespace BuildRemarks.Location

/-- A place as it is written, `file:line:column`. -/
structure Triple where
  file : List Char
  line : Text.HalfWordNumeral
  column : Text.HalfWordNumeral
  file_ne_nil : file ≠ [] := by decide

namespace Triple

def text (t : Triple) : List Char := t.file ++ ':' :: (t.line.text ++ ':' :: t.column.text)

def location (t : Triple) : Location := .inFile (.ofList t.file) t.line.word t.column.word

/-- What stands before the last colon. -/
def front (t : Triple) : List Char := t.file ++ ':' :: t.line.text

theorem colon_notMem_text (n : Text.HalfWordNumeral) : ':' ∉ n.text := by
  refine Text.SignedNumeral.notMem_text (by decide) ?_
  cases n.sign <;> decide

theorem splitLast?_text (t : Triple) :
    Text.splitLast? ':' t.text = some (t.front, t.column.text) := by
  refine Text.splitLast?_eq_some_iff.2 ⟨?_, colon_notMem_text t.column⟩
  rw [text, front, List.append_assoc, List.cons_append]

theorem splitLast?_front (t : Triple) :
    Text.splitLast? ':' t.front = some (t.file, t.line.text) :=
  Text.splitLast?_eq_some_iff.2 ⟨rfl, colon_notMem_text t.line⟩

/-- A text is divided into a triple in one way only. -/
theorem text_injective {t u : Triple} (h : t.text = u.text) : t = u := by
  have hlast := t.splitLast?_text
  rw [h, u.splitLast?_text] at hlast
  obtain ⟨hfront, hcolumn⟩ := Prod.mk.inj (Option.some.inj hlast)
  have hfirst := t.splitLast?_front
  rw [← hfront, u.splitLast?_front] at hfirst
  obtain ⟨hfile, hline⟩ := Prod.mk.inj (Option.some.inj hfirst)
  have hlines := Text.HalfWordNumeral.text_injective hline
  have hcolumns := Text.HalfWordNumeral.text_injective hcolumn
  cases t
  cases u
  cases hfile
  cases hlines
  cases hcolumns
  rfl

end Triple

/-! ### What is read -/

theorem exists_triple_of_ofTriple? {text : List Char} {l : Location}
    (h : ofTriple? text = some l) : ∃ t : Triple, t.text = Text.trim text ∧ t.location = l := by
  simp only [ofTriple?, bind, Option.bind_eq_some_iff] at h
  obtain ⟨⟨front, columnText⟩, hlast, ⟨file, lineText⟩, hfirst, h⟩ := h
  obtain ⟨column, hcolumn, line, hline, h⟩ := h
  obtain ⟨htext, -⟩ := Text.splitLast?_eq_some_iff.1 hlast
  obtain ⟨rfl, -⟩ := Text.splitLast?_eq_some_iff.1 hfirst
  obtain ⟨c, rfl, rfl⟩ := Text.readUInt32?_eq_some_iff_numeral.1 hcolumn
  obtain ⟨n, rfl, rfl⟩ := Text.readUInt32?_eq_some_iff_numeral.1 hline
  split at h
  · exact absurd h (by simp)
  · rename_i hfile
    refine ⟨⟨file, n, c, fun e => hfile (List.isEmpty_iff.2 e)⟩, ?_, Option.some.inj h⟩
    rw [htext, Triple.text, List.append_assoc, List.cons_append]

theorem ofTriple?_of_trim_eq {text : List Char} {t : Triple} (h : Text.trim text = t.text) :
    ofTriple? text = some t.location := by
  have hcolumn := Text.readUInt32?_eq_some_iff_numeral.2 ⟨t.column, rfl, rfl⟩
  have hline := Text.readUInt32?_eq_some_iff_numeral.2 ⟨t.line, rfl, rfl⟩
  simp only [ofTriple?, bind, h, t.splitLast?_text, t.splitLast?_front, Option.bind_some, hcolumn,
    hline, List.isEmpty_eq_false_iff.2 t.file_ne_nil]
  rfl

/-- The reader takes what is a triple between blanks, as the place that this triple writes, and
nothing else. -/
structure ReadsTriples (read? : List Char → Option Location) : Prop where
  eq_some_iff : ∀ text l,
    read? text = some l ↔ ∃ t : Triple, Text.TrimsTo text t.text ∧ t.location = l
  unique : ∀ text (t u : Triple), Text.TrimsTo text t.text → Text.TrimsTo text u.text → t = u
  written : ∀ file (line column : UInt32), file ≠ [] →
    (∀ c, file.head? = some c → Text.isBlank c = false) →
    read? (file ++ ':' :: (Text.numeral line.toNat ++ ':' :: Text.numeral column.toNat)) =
      some (.inFile (.ofList file) line column)

theorem readsTriples_ofTriple? : ReadsTriples ofTriple? where
  eq_some_iff := by
    intro text l
    constructor
    · intro h
      obtain ⟨t, htext, hl⟩ := exists_triple_of_ofTriple? h
      exact ⟨t, Text.trim_eq_iff.1 htext.symm, hl⟩
    · rintro ⟨t, htrim, rfl⟩
      exact ofTriple?_of_trim_eq (Text.trim_eq_iff.2 htrim)
  unique := by
    intro text t u ht hu
    have htext : t.text = u.text := by
      rw [← Text.trim_eq_iff.2 ht, ← Text.trim_eq_iff.2 hu]
    exact Triple.text_injective htext
  written := fun _ line column hne hhead =>
    Printed.ofTriple?_placeText line column hne hhead

/-- The file has a colon, and a place in it is read as it is printed, and between blanks with a
plus sign and leading zeros. -/
theorem ofTriple?_drivePath :
    let file := "C:\\k.c".toList
    let spaced := "\t C:\\k.c:+7:007\u00A0".toList
    (file ≠ [] ∧ ∀ c, file.head? = some c → Text.isBlank c = false) ∧
      ofTriple? (file ++ ':' :: (Text.numeral (7 : UInt32).toNat ++ ':' ::
        Text.numeral (0 : UInt32).toNat)) = some (.inFile (.ofList file) 7 0) ∧
      ofTriple? spaced = some (.inFile (.ofList file) 7 7) := by
  intro file spaced
  have hne : file ≠ [] := by decide
  have hhead : ∀ c, file.head? = some c → Text.isBlank c = false := by
    intro c hc
    obtain rfl : 'C' = c := Option.some.inj hc
    decide
  let seven : Text.HalfWordNumeral := { sign := .plus, digits := ['7'] }
  let padded : Text.HalfWordNumeral := { sign := .none, digits := ['0', '0', '7'] }
  let t : Triple := { file, line := seven, column := padded, file_ne_nil := hne }
  have htrim : Text.TrimsTo spaced t.text := Text.trim_eq_iff.1 rfl
  exact ⟨⟨hne, hhead⟩, readsTriples_ofTriple?.written file 7 0 hne hhead,
    (readsTriples_ofTriple?.eq_some_iff spaced _).2 ⟨t, htrim, rfl⟩⟩

end BuildRemarks.Location
