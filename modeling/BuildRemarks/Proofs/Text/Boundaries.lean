import BuildRemarks.Proofs.Text.Encoding

/-!
# Streams cut at their line ends

A line feed or a carriage return is never a part of another character, so a stream is well-formed
exactly if all of its lines are. Behind a line feed a new line begins: the lines of two pieces, of
which the first has ended its last line, are the lines of the one and then those of the other.
-/

namespace BuildRemarks.Text

/-- The bytes are well-formed UTF-8. -/
def WellFormed (bytes : Bytes) : Prop := bytes.toByteArray.IsValidUTF8

/-- Behind the bytes a new line begins. -/
def Ended (bytes : Bytes) : Prop := bytes = [] ∨ bytes.getLast? = some 0x0A

/-! ### Well-formed streams -/

theorem wellFormed_iff_exists_encode {bytes : Bytes} :
    WellFormed bytes ↔ ∃ cs, bytes = encode cs := by
  constructor
  · rintro ⟨cs, hcs⟩
    have hbytes := congrArg (fun b => b.data.toList) hcs
    simp only [List.toList_data_toByteArray, List.utf8Encode] at hbytes
    exact ⟨cs, hbytes⟩
  · rintro ⟨cs, rfl⟩
    exact ⟨cs, rfl⟩

theorem wellFormed_encode (cs : List Char) : WellFormed (encode cs) :=
  wellFormed_iff_exists_encode.2 ⟨cs, rfl⟩

theorem wellFormed_nil : WellFormed [] := wellFormed_encode []

theorem WellFormed.append {a b : Bytes} (ha : WellFormed a) (hb : WellFormed b) :
    WellFormed (a ++ b) := by
  obtain ⟨cs, rfl⟩ := wellFormed_iff_exists_encode.1 ha
  obtain ⟨ds, rfl⟩ := wellFormed_iff_exists_encode.1 hb
  exact wellFormed_iff_exists_encode.2 ⟨cs ++ ds, (encode_append cs ds).symm⟩

theorem wellFormed_of_decode? {bytes : Bytes} {s : String} (h : decode? bytes = some s) :
    WellFormed bytes :=
  wellFormed_iff_exists_encode.2 ⟨s.toList, decode?_eq_some_iff.1 h⟩

theorem decode?_eq_none_iff {bytes : Bytes} : decode? bytes = none ↔ ¬ WellFormed bytes := by
  rw [Option.eq_none_iff_forall_ne_some]
  constructor
  · intro h hwell
    obtain ⟨cs, rfl⟩ := wellFormed_iff_exists_encode.1 hwell
    exact h _ (decode?_encode cs)
  · intro h s hs
    exact h (wellFormed_of_decode? hs)

theorem WellFormed.prepend_nil {lines : List Bytes} (h : ∀ line ∈ lines, WellFormed line) :
    ∀ line ∈ prepend [] lines, WellFormed line := by
  cases lines with
  | nil =>
    intro line hline
    exact List.mem_singleton.1 hline ▸ wellFormed_nil
  | cons first lines => exact h

/-- What is put in front of the lines is put in front of the stream. -/
theorem wellFormed_of_lines {front bytes : Bytes}
    (h : ∀ line ∈ prepend front (rawLines bytes), WellFormed line) :
    WellFormed (front ++ bytes) := by
  -- the front collects the line that is read; at a line end it is complete
  induction bytes generalizing front with
  | nil =>
    rw [List.append_nil]
    exact h front List.mem_cons_self
  | cons b rest ih =>
    by_cases hn : b = 0x0A
    · subst hn
      rw [rawLines_newline, prepend, List.append_nil] at h
      have hfront := h front List.mem_cons_self
      have hrest := ih (WellFormed.prepend_nil fun line hline =>
        h line (List.mem_cons_of_mem front hline))
      exact hfront.append ((wellFormed_encode ['\n']).append hrest)
    · by_cases hr : b = 0x0D ∧ rest.head? = some 0x0A
      · obtain ⟨rfl, hhead⟩ := hr
        obtain ⟨behind, rfl⟩ := List.head?_eq_some_iff.1 hhead
        rw [rawLines_return hhead, rawLines_newline, prepend, List.append_nil] at h
        have hfront := h front List.mem_cons_self
        have hlines : ∀ line ∈ rawLines (0x0A :: behind), WellFormed line := by
          rw [rawLines_newline]
          exact List.forall_mem_cons.2 ⟨wellFormed_nil, fun line hline =>
            h line (List.mem_cons_of_mem front hline)⟩
        have hrest := ih (WellFormed.prepend_nil hlines)
        exact hfront.append ((wellFormed_encode ['\r']).append hrest)
      · rw [rawLines_cons hn hr] at h
        have hshift : prepend front (prepend [b] (rawLines rest)) =
            prepend (front ++ [b]) (rawLines rest) := by
          cases rawLines rest with
          | nil => rfl
          | cons line lines => simp only [prepend, List.append_assoc]
        rw [hshift] at h
        have hrest := ih h
        rwa [List.append_assoc] at hrest

theorem wellFormed_iff_lines {bytes : Bytes} :
    WellFormed bytes ↔ ∀ line ∈ rawLines bytes, WellFormed line := by
  constructor
  · intro h line hline
    obtain ⟨cs, rfl⟩ := wellFormed_iff_exists_encode.1 h
    rw [rawLines_encode] at hline
    obtain ⟨text, -, rfl⟩ := List.mem_map.1 hline
    exact wellFormed_encode text
  · intro h
    exact wellFormed_of_lines (WellFormed.prepend_nil h)

theorem mapM_decode?_eq_none_iff {lines : List Bytes} :
    lines.mapM decode? = none ↔ ¬ ∀ line ∈ lines, WellFormed line := by
  induction lines with
  | nil => simp
  | cons line lines ih =>
    rw [List.forall_mem_cons, not_and, ← ih, List.mapM_cons]
    cases hline : decode? line with
    | none => exact iff_of_true rfl fun hwell => absurd hwell (decode?_eq_none_iff.1 hline)
    | some text =>
      have hwell : WellFormed line := wellFormed_of_decode? hline
      cases lines.mapM decode? with
      | none => exact iff_of_true rfl fun _ => rfl
      | some texts => exact iff_of_false (by simp) fun hnone => absurd (hnone hwell) (by simp)

theorem lines?_eq_none_iff {bytes : Bytes} : lines? bytes = none ↔ ¬ WellFormed bytes := by
  rw [lines?, mapM_decode?_eq_none_iff, wellFormed_iff_lines]

/-! ### Lines ended by line feeds -/

/-- The text that has these lines, each ended by a line feed. -/
def ofLines (lines : List String) : Bytes :=
  encode (lines.flatMap fun line => line.toList ++ ['\n'])

theorem textLines_flatMap {lines : List String}
    (h : ∀ line ∈ lines, '\n' ∉ line.toList ∧ '\r' ∉ line.toList) :
    textLines (lines.flatMap fun line => line.toList ++ ['\n']) =
      lines.map String.toList := by
  induction lines with
  | nil => rfl
  | cons line lines ih =>
    obtain ⟨hn, hr⟩ := h line List.mem_cons_self
    rw [List.flatMap_cons, List.append_assoc, List.cons_append, List.nil_append,
      textLines_unbroken hn hr,
      ih fun other hother => h other (List.mem_cons_of_mem line hother), List.map_cons]

theorem lines?_ofLines {lines : List String}
    (h : ∀ line ∈ lines, '\n' ∉ line.toList ∧ '\r' ∉ line.toList) :
    lines? (ofLines lines) = some lines := by
  rw [ofLines, lines?_encode, textLines_flatMap h, List.map_map]
  simp only [Function.comp_def, String.ofList_toList, List.map_id']

/-! ### Pieces of a stream -/

theorem ended_nil : Ended [] := Or.inl rfl

theorem Ended.tail {b : UInt8} {bytes : Bytes} (h : Ended (b :: bytes)) : Ended bytes := by
  cases bytes with
  | nil => exact ended_nil
  | cons c bytes =>
    have hlast := h.resolve_left (List.cons_ne_nil b (c :: bytes))
    exact Or.inr ((List.getLast?_cons_cons).symm.trans hlast)

theorem Ended.append {a b : Bytes} (ha : Ended a) (hb : Ended b) : Ended (a ++ b) := by
  rcases hb with rfl | hb
  · rwa [List.append_nil]
  · exact Or.inr (by rw [List.getLast?_append, hb, Option.some_or])

theorem ended_ofLines (lines : List String) : Ended (ofLines lines) := by
  induction lines with
  | nil => exact ended_nil
  | cons line lines ih =>
    rw [ofLines, List.flatMap_cons, encode_append]
    refine Ended.append (Or.inr ?_) ih
    rw [encode_append, List.getLast?_append]
    rfl

theorem rawLines_ne_nil {bytes : Bytes} (h : bytes ≠ []) : rawLines bytes ≠ [] := by
  cases bytes with
  | nil => exact absurd rfl h
  | cons b rest =>
    by_cases hn : b = 0x0A
    · rw [hn, rawLines_newline]
      exact List.cons_ne_nil _ _
    · by_cases hr : b = 0x0D ∧ rest.head? = some 0x0A
      · obtain ⟨rfl, hhead⟩ := hr
        obtain ⟨behind, rfl⟩ := List.head?_eq_some_iff.1 hhead
        rw [rawLines_return hhead, rawLines_newline]
        exact List.cons_ne_nil _ _
      · rw [rawLines_cons hn hr]
        cases rawLines rest <;> exact List.cons_ne_nil _ _

theorem prepend_append {α : Type} (front : List α) {lines : List (List α)} (h : lines ≠ [])
    (more : List (List α)) : prepend front (lines ++ more) = prepend front lines ++ more := by
  cases lines with
  | nil => exact absurd rfl h
  | cons line lines => rfl

/-- Behind an ended piece the lines of the rest begin. -/
theorem rawLines_append_of_ended {a : Bytes} (h : Ended a) (b : Bytes) :
    rawLines (a ++ b) = rawLines a ++ rawLines b := by
  induction a with
  | nil => rfl
  | cons c a ih =>
    have hrest := ih h.tail
    rw [List.cons_append]
    by_cases hn : c = 0x0A
    · rw [hn, rawLines_newline, rawLines_newline, hrest, List.cons_append]
    · -- any other byte is not the last of the piece, so what follows it is the same in both
      have hne : a ≠ [] := by
        rintro rfl
        exact hn (Option.some.inj (h.resolve_left (List.cons_ne_nil c [])))
      have hhead : (a ++ b).head? = a.head? := by
        rw [List.head?_append, List.head?_eq_some_head hne, Option.some_or]
      by_cases hr : c = 0x0D ∧ a.head? = some 0x0A
      · obtain ⟨rfl, ha⟩ := hr
        rw [rawLines_return ha, rawLines_return (hhead.trans ha), hrest]
      · have hr' : ¬ (c = 0x0D ∧ (a ++ b).head? = some 0x0A) := by rwa [hhead]
        rw [rawLines_cons hn hr, rawLines_cons hn hr', hrest,
          prepend_append [c] (rawLines_ne_nil hne)]

theorem lines?_append_of_ended {a : Bytes} (h : Ended a) (b : Bytes) :
    lines? (a ++ b) = (do
      let front ← lines? a
      let back ← lines? b
      pure (front ++ back)) := by
  rw [lines?, rawLines_append_of_ended h, List.mapM_append]
  rfl

end BuildRemarks.Text
