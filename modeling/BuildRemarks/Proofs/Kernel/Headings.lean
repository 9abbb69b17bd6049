import BuildRemarks.Kernel.Heading
import BuildRemarks.Proofs.Text.Numerals
import BuildRemarks.Proofs.Text.Runs

/-!
# The grammar of headings

Which texts open with a heading, said without the reader: a file without colons, two runs of
digits and a quoted kernel. Whatever else such a text holds, the reader finds these parts.
-/

namespace BuildRemarks.Kernel

/-- The text is the heading with `rest` behind it. -/
structure Heading.Opens (h : Heading) (cs rest : List Char) : Prop where
  text : cs = h.file ++ ':' :: (h.line ++ ':' :: (h.column ++
    (": in artificial function '".toList ++ (h.function ++ '\'' :: rest))))
  file_ne_nil : h.file ≠ []
  colon_notMem_file : ':' ∉ h.file
  line_ne_nil : h.line ≠ []
  line_digits : ∀ c ∈ h.line, Text.isDecimalDigit c = true
  column_ne_nil : h.column ≠ []
  column_digits : ∀ c ∈ h.column, Text.isDecimalDigit c = true
  function_ne_nil : h.function ≠ []
  quote_notMem_function : '\'' ∉ h.function

theorem digits?_eq_some_iff {cs digits rest : List Char} :
    digits? cs = some (digits, rest) ↔
      digits ≠ [] ∧ Text.takeRun Text.isDecimalDigit cs = (digits, rest) := by
  rw [digits?]
  split
  · rename_i more htake
    rw [htake]
    constructor
    · intro h
      exact absurd h (by simp)
    · rintro ⟨hne, h⟩
      exact absurd (congrArg Prod.fst h).symm hne
  · rename_i hnil
    rw [Option.some.injEq]
    constructor
    · intro h
      exact ⟨fun hd => hnil rest (h.trans (by rw [hd])), h⟩
    · exact fun h => h.2

theorem digits?_append {digits : List Char} {stop : Char} (rest : List Char)
    (hne : digits ≠ []) (h : ∀ c ∈ digits, Text.isDecimalDigit c = true)
    (hstop : Text.isDecimalDigit stop = false) :
    digits? (digits ++ stop :: rest) = some (digits, stop :: rest) :=
  digits?_eq_some_iff.2 ⟨hne, Text.takeRun_append_cons rest h hstop⟩

theorem Heading.opens_of_read? {cs rest : List Char} {h : Heading}
    (hread : Heading.read? cs = some (h, rest)) : h.Opens cs rest := by
  simp only [Heading.read?, bind, Option.bind_eq_some_iff, pure, Option.some.injEq] at hread
  obtain ⟨⟨file, cs₁⟩, hfile, ⟨line, cs₂⟩, hline, cs₃, hcolon, ⟨column, cs₄⟩,
    hcolumn, cs₅, hlead, ⟨function, cs₆⟩, hfunction, heq⟩ := hread
  obtain ⟨rfl, rfl⟩ := Prod.mk.inj heq
  obtain ⟨hfne, hfcolon, rfl⟩ := Text.runTo?_eq_some_iff.1 hfile
  obtain ⟨hlne, hltake⟩ := digits?_eq_some_iff.1 hline
  obtain ⟨rfl, hldigits, -⟩ := Text.takeRun_eq_iff.1 hltake
  obtain rfl := Text.after?_eq_some_iff.1 hcolon
  obtain ⟨hcne, hctake⟩ := digits?_eq_some_iff.1 hcolumn
  obtain ⟨rfl, hcdigits, -⟩ := Text.takeRun_eq_iff.1 hctake
  obtain rfl := Text.after?_eq_some_iff.1 hlead
  obtain ⟨hkne, hkquote, rfl⟩ := Text.runTo?_eq_some_iff.1 hfunction
  exact ⟨rfl, hfne, hfcolon, hlne, hldigits, hcne, hcdigits, hkne, hkquote⟩

theorem Heading.Opens.read? {cs rest : List Char} {h : Heading} (ho : h.Opens cs rest) :
    Heading.read? cs = some (h, rest) := by
  obtain ⟨rfl, hfne, hfcolon, hlne, hldigits, hcne, hcdigits, hkne, hkquote⟩ := ho
  -- the lead behind the column begins with a colon, which ends the digits
  have hlead : ": in artificial function '".toList ++ (h.function ++ '\'' :: rest) =
      ':' :: (" in artificial function '".toList ++ (h.function ++ '\'' :: rest)) := rfl
  have hcolumn (rest : List Char) :
      digits? (h.column ++ ':' :: rest) = some (h.column, ':' :: rest) :=
    digits?_append rest hcne hcdigits (by decide)
  have hline (rest : List Char) :
      digits? (h.line ++ ':' :: rest) = some (h.line, ':' :: rest) :=
    digits?_append rest hlne hldigits (by decide)
  have hcolon (rest : List Char) : Text.after? ":" (':' :: rest) = some rest :=
    Text.after?_append ":" rest
  simp only [Heading.read?, bind, pure, Text.runTo?_append _ hfne hfcolon, Option.bind_some,
    hline, hcolon]
  rw [hlead, hcolumn, Option.bind_some, ← hlead, Text.after?_append, Option.bind_some,
    Text.runTo?_append rest hkne hkquote, Option.bind_some]

theorem Heading.read?_eq_some_iff {cs rest : List Char} {h : Heading} :
    Heading.read? cs = some (h, rest) ↔ h.Opens cs rest :=
  ⟨Heading.opens_of_read?, Heading.Opens.read?⟩

end BuildRemarks.Kernel
