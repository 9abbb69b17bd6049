import Mathlib.Data.List.Infix
import BuildRemarks.Proofs.Printed.InliningMessage

/-!
# Printed lines about inlining

A line with a message about inlining gives the remark of the message at the place of the line,
without a tag and with one. The tag is found where it begins since no earlier bracket is closed
by the end of the line.
-/

namespace BuildRemarks.Printed

/-- `remark: file:line:column: rest` -/
def lineText (file : List Char) (line column : UInt32) (rest : List Char) : List Char :=
  "remark: ".toList ++ (file ++ ':' :: (Text.numeral line.toNat ++ ':' ::
    (Text.numeral column.toNat ++ ':' :: (' ' :: rest))))

/-- ` [tag]` -/
def tagText (tag : List Char) : List Char := " [".toList ++ (tag ++ [']'])

/-- Behind every bracket that may open a tag there is a closing one. -/
def BracketsClosed (message : List Char) : Prop :=
  ∀ front back, message = front ++ (" [".toList ++ back) → ']' ∈ back

/-- Only the ends of the message have to be looked at. -/
theorem bracketsClosed_iff {message : List Char} :
    BracketsClosed message ↔
      ∀ rest ∈ message.tails, " [".toList.isPrefixOf rest = true → ']' ∈ rest.drop 2 := by
  constructor
  · intro h rest hrest hopens
    obtain ⟨back, rfl⟩ := List.isPrefixOf_iff_prefix.1 hopens
    obtain ⟨front, hfront⟩ := (List.mem_tails _ _).1 hrest
    exact h front back hfront.symm
  · intro h front back hmessage
    have hsuffix : " [".toList ++ back <:+ message := ⟨front, hmessage.symm⟩
    exact h _ ((List.mem_tails _ _).2 hsuffix)
      (List.isPrefixOf_iff_prefix.2 (List.prefix_append _ back))

instance (message : List Char) : Decidable (BracketsClosed message) :=
  decidable_of_iff _ bracketsClosed_iff.symm

/-! ### Tags -/

theorem tagAt?_tagText {tag : List Char} (hne : tag ≠ []) (h : ']' ∉ tag) :
    tagAt? (tagText tag) = some (some tag) := by
  have hbracketed : Text.bracketed? ('[' :: (tag ++ [']'])) = some tag :=
    Text.bracketed?_eq_some_iff.2 ⟨hne, h, rfl⟩
  show (Text.bracketed? ('[' :: (tag ++ [']']))).map some = some (some tag)
  rw [hbracketed]
  rfl

namespace Told

variable {t : Told}

theorem message_ne_nil (t : Told) : t.message ≠ [] := List.cons_ne_nil _ _

end Told

end BuildRemarks.Printed
