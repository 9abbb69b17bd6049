import BuildRemarks.Grammar
import BuildRemarks.Proofs.Text.Boundaries

/-!
# Streams that can be read

Two grammars read a stream line by line, the third reads it as a whole. All of them refuse the
same streams for their encoding, since a stream is well-formed exactly if its lines are. The line
grammars refuse no other stream: whatever a line says, it is read or passed over.
-/

namespace BuildRemarks.Collect

open Text (Bytes WellFormed lines? rawLines)

/-- What is made of the lines of a stream, if they are text. -/
def byLines (remarks : List String → List Remark) (stream : Bytes) :
    Except Failure (List Remark) :=
  match lines? stream with
  | none => .error .encoding
  | some lines => .ok (remarks lines)

/-- The grammar reads what is well-formed and fails on everything else because of its
encoding. -/
structure FailsByEncoding (g : Grammar) (stream : Bytes) : Prop where
  fails_iff : ∀ failure, g.parse stream = .error failure ↔
    failure = .encoding ∧ ¬ WellFormed stream
  reads_iff : (∃ remarks, g.parse stream = .ok remarks) ↔ WellFormed stream

/-! ### The line grammars -/

theorem printed_parse_eq (stream : Bytes) :
    Printed.parse stream =
      byLines (fun lines => lines.filterMap fun line => Printed.parseLine? line.toList) stream :=
  rfl

theorem kernel_parse_eq (stream : Bytes) :
    Kernel.parse stream = byLines Kernel.remarksOfLines stream := rfl

variable {remarks : List String → List Remark} {stream : Bytes}

theorem byLines_of_lines? {lines : List String} (h : lines? stream = some lines) :
    byLines remarks stream = .ok (remarks lines) := by
  rw [byLines, h]

theorem byLines_of_not_wellFormed (h : ¬ WellFormed stream) :
    byLines remarks stream = .error .encoding := by
  rw [byLines, Text.lines?_eq_none_iff.2 h]

theorem exists_lines?_of_wellFormed (h : WellFormed stream) :
    ∃ lines, lines? stream = some lines :=
  Option.ne_none_iff_exists'.1 fun hnone => Text.lines?_eq_none_iff.1 hnone h

theorem failsByEncoding_of_byLines {g : Grammar} (h : g.parse stream = byLines remarks stream) :
    FailsByEncoding g stream := by
  by_cases hwell : WellFormed stream
  · obtain ⟨lines, hlines⟩ := exists_lines?_of_wellFormed hwell
    rw [byLines_of_lines? hlines] at h
    refine ⟨fun failure => ?_, iff_of_true ⟨remarks lines, h⟩ hwell⟩
    rw [h]
    exact iff_of_false (by simp) fun hfails => hfails.2 hwell
  · rw [byLines_of_not_wellFormed hwell] at h
    refine ⟨fun failure => ?_, iff_of_false ?_ hwell⟩
    · rw [h, Except.error.injEq]
      exact ⟨fun he => ⟨he.symm, hwell⟩, fun hfails => hfails.1.symm⟩
    · rintro ⟨found, hfound⟩
      rw [h] at hfound
      exact absurd hfound (by simp)

/-! ### Records -/

/-- Records that are no documents fail as well, and with another failure. -/
theorem record_parse_eq_encoding_iff (stream : Bytes) :
    Record.parse stream = .error .encoding ↔ ¬ WellFormed stream := by
  rw [← Text.decode?_eq_none_iff, Record.parse.eq_def]
  split
  · rename_i hnone
    exact iff_of_true rfl hnone
  · rename_i text htext
    rw [htext]
    split
    · exact iff_of_false (by simp) (by simp)
    · exact iff_of_false (by simp) (by simp)

/-! ### All grammars -/

/-- The grammars agree on the streams whose encoding they refuse. One bad line is enough,
wherever it stands and whether or not it reports a remark. -/
theorem unreadable_iff (stream : Bytes) :
    FailsByEncoding .printed stream ∧ FailsByEncoding .kernel stream ∧
      (Record.parse stream = .error .encoding ↔ ¬ WellFormed stream) ∧
      (¬ WellFormed stream ↔ ∃ line ∈ rawLines stream, ¬ WellFormed line) := by
  refine ⟨failsByEncoding_of_byLines (printed_parse_eq stream),
    failsByEncoding_of_byLines (kernel_parse_eq stream), record_parse_eq_encoding_iff stream, ?_⟩
  rw [Text.wellFormed_iff_lines]
  simp only [Classical.not_forall, exists_prop]

/-- A character that a line feed cuts is in none of the lines. -/
example : lines? [0x61, 0xC3, 0x0A, 0xA9] = none := by decide

end BuildRemarks.Collect
