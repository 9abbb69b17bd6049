import BuildRemarks.Kernel.Scan
import BuildRemarks.Proofs.Kernel.Headings
import BuildRemarks.Proofs.Kernel.SentenceReading
import BuildRemarks.Proofs.Kernel.TagEndings

/-!
# Lines put together from a place and a sentence

A scan that is fed such a line gives a remark with this place, this sentence as its message and
the descriptor that the sentence was written for, from whatever state the scan is in.
-/

namespace BuildRemarks.Kernel

/-- The line of a sentence about the kernel `function`. -/
def lineOf (file : List Char) (line column : UInt32) (function sentence : List Char) :
    List Char :=
  file ++ ':' :: (Text.numeral line.toNat ++ ':' :: (Text.numeral column.toNat ++
    (": in artificial function '".toList ++ (function ++ '\'' :: (", ".toList ++ sentence)))))

/-! ### The ends of a sentence -/

/-- The text begins and ends with characters that are not blank, and not with a bracket. -/
structure Trimmed (cs : List Char) : Prop where
  head : ∃ c, cs.head? = some c ∧ Text.isBlank c = false
  last : ∃ c, cs.getLast? = some c ∧ Text.isBlank c = false ∧ c ≠ ']'

theorem Trimmed.trim_eq {cs : List Char} (h : Trimmed cs) : Text.trim cs = cs := by
  obtain ⟨⟨c, hhead, hc⟩, d, hlast, hd, -⟩ := h
  refine Text.trim_eq_self (fun e he => ?_) fun e he => ?_
  · rw [hhead] at he
    exact Option.some.inj he ▸ hc
  · rw [hlast] at he
    exact Option.some.inj he ▸ hd

theorem IsName.head_append {inName : Char → Bool} {name : List Char} (h : IsName inName name)
    (rest : List Char) : ∃ c, (name ++ rest).head? = some c ∧ Text.isBlank c = false := by
  cases name with
  | nil => exact h.elim
  | cons c cs => exact ⟨c, rfl, isBlank_of_isNameStart h.1⟩

theorem getLast?_calleeText (lead callee : List Char) :
    (lead ++ calleeText callee).getLast? = some '\'' := by
  have hquoted : (callee ++ ['\'']).getLast? = some '\'' := List.getLast?_concat
  exact Text.getLast?_append_of_some
    (Text.getLast?_append_of_some (Text.getLast?_cons_of_some hquoted _))

theorem getLast?_accessText (instruction : List Char) (viaCall : Bool)
    (operand space : List Char) :
    (accessText instruction viaCall operand space).getLast? = some 'e' := by
  have hspace : (spaceText space).getLast? = some 'e' :=
    Text.getLast?_append_of_some (Text.getLast?_append_of_some (by decide))
  have hoperand : (operand ++ '\'' :: spaceText space).getLast? = some 'e' :=
    Text.getLast?_append_of_some (Text.getLast?_cons_of_some hspace _)
  have hword : (accessWord viaCall ++ '\'' :: (operand ++ '\'' :: spaceText space)).getLast? =
      some 'e' :=
    Text.getLast?_append_of_some (Text.getLast?_cons_of_some hoperand _)
  exact Text.getLast?_cons_of_some
    (Text.getLast?_append_of_some (Text.getLast?_cons_of_some hword _)) _

theorem Written.trimmed {text : List Char} {d : Descriptor} {m : Option (String × UInt64)}
    (h : Written text d m) : Trimmed text := by
  cases h with
  | metric hname value =>
    obtain ⟨c, hc, hdigit⟩ := Text.getLast?_numeral value.toNat
    have hbracket : c ≠ ']' := by
      rintro rfl
      exact absurd hdigit (by decide)
    exact ⟨hname.head_append _, c,
      Text.getLast?_append_of_some (Text.getLast?_append_of_some hc),
      Text.isBlank_of_isDigit hdigit, hbracket⟩
  | @attr name value hname _ _ =>
    have hquoted : (value ++ ['\'']).getLast? = some '\'' := List.getLast?_concat
    have hlast : (" = ".toList ++ '\'' :: (value ++ ['\''])).getLast? = some '\'' :=
      Text.getLast?_append_of_some (Text.getLast?_cons_of_some hquoted _)
    exact ⟨hname.head_append _, '\'', Text.getLast?_append_of_some hlast, by decide, by decide⟩
  | indirectCall => exact ⟨⟨'i', rfl, by decide⟩, 'l', by decide, by decide, by decide⟩
  | indirectCallOf _ _ =>
    exact ⟨⟨'i', rfl, by decide⟩, '\'', getLast?_calleeText _ _, by decide, by decide⟩
  | directCall _ _ =>
    exact ⟨⟨'d', rfl, by decide⟩, '\'', getLast?_calleeText _ _, by decide, by decide⟩
  | access _ _ _ _ _ _ _ =>
    exact ⟨⟨'\'', rfl, by decide⟩, 'e', getLast?_accessText _ _ _ _, by decide, by decide⟩
  | accessUnknown _ _ _ _ _ _ =>
    exact ⟨⟨'\'', rfl, by decide⟩, 'e', getLast?_accessText _ _ _ _, by decide, by decide⟩

/-! ### The parts of a line -/

theorem opens_lineOf {file function : List Char} (line column : UInt32) (sentence : List Char)
    (hfile : file ≠ []) (hcolon : ':' ∉ file) (hfunction : function ≠ [])
    (hquote : '\'' ∉ function) :
    (Heading.mk file (Text.numeral line.toNat) (Text.numeral column.toNat) function).Opens
      (lineOf file line column function sentence) (", ".toList ++ sentence) where
  text := rfl
  file_ne_nil := hfile
  colon_notMem_file := hcolon
  line_ne_nil := Text.numeral_ne_nil _
  line_digits _ hc := Text.isDecimalDigit_of_mem_numeral hc
  column_ne_nil := Text.numeral_ne_nil _
  column_digits _ hc := Text.isDecimalDigit_of_mem_numeral hc
  function_ne_nil := hfunction
  quote_notMem_function := hquote

theorem getLast?_lineOf {sentence : List Char} {c : Char} (h : sentence.getLast? = some c)
    (file : List Char) (line column : UInt32) (function : List Char) :
    (lineOf file line column function sentence).getLast? = some c := by
  have hfunction : (function ++ '\'' :: (", ".toList ++ sentence)).getLast? = some c :=
    Text.getLast?_append_of_some
      (Text.getLast?_cons_of_some (Text.getLast?_append_of_some h) _)
  have hcolumn : (Text.numeral column.toNat ++ (": in artificial function '".toList ++
      (function ++ '\'' :: (", ".toList ++ sentence)))).getLast? = some c :=
    Text.getLast?_append_of_some (Text.getLast?_append_of_some hfunction)
  exact Text.getLast?_append_of_some (Text.getLast?_cons_of_some
    (Text.getLast?_append_of_some (Text.getLast?_cons_of_some hcolumn _)) _)

theorem splitHeading_lineOf {file function sentence : List Char} (line column : UInt32)
    (hfile : file ≠ []) (hcolon : ':' ∉ file) (hfunction : function ≠ [])
    (hquote : '\'' ∉ function) (h : Trimmed sentence) :
    splitHeading (lineOf file line column function sentence) =
      (some ⟨file, Text.numeral line.toNat, Text.numeral column.toNat, function⟩,
        ", ".toList ++ sentence) := by
  obtain ⟨c, hlast, -, hbracket⟩ := h.last
  have htag : (lineOf file line column function sentence).getLast? ≠ some ']' := by
    rw [getLast?_lineOf hlast]
    exact fun he => hbracket (Option.some.inj he)
  have hbody : withoutPassTag (lineOf file line column function sentence) =
      lineOf file line column function sentence := by
    rw [withoutPassTag, splitPassTag_of_getLast?_ne htag]
  have hread := (opens_lineOf line column sentence hfile hcolon hfunction hquote).read?
  simp only [splitHeading, hbody, hread]

theorem messageOf_sentence {sentence : List Char} (h : Trimmed sentence) :
    messageOf (", ".toList ++ sentence) = sentence := by
  have hdrop : (", ".toList ++ sentence).dropWhile (fun c => c == ',' || c == ':') =
      ' ' :: sentence := rfl
  have hstart : Text.trimStart (' ' :: sentence) = Text.trimStart sentence := rfl
  rw [messageOf, hdrop, Text.trim, hstart, ← Text.trim, h.trim_eq]

/-! ### The step of a scan -/

theorem feed_lineOf {file function sentence : List Char} {d : Descriptor}
    {m : Option (String × UInt64)} (s : Scan) (line column : UInt32) (hfile : file ≠ [])
    (hcolon : ':' ∉ file) (hfunction : function ≠ []) (hquote : '\'' ∉ function)
    (h : Written sentence d m) :
    s.feed (lineOf file line column function sentence) =
      { function := some (.ofList function)
        totals := m.elim s.totals fun e => s.totals.record e.1 e.2
        remarks := s.remarks ++ [
          { Remark.plain .kernel .kernelInfo .analysis (.ofList sentence) with
            function := .ofList function
            location := some {
              file := some (.ofList file)
              line := some line
              column := some column
              function := some (.ofList function) }
            kernel := some d }] } := by
  have hsplit := splitHeading_lineOf line column hfile hcolon hfunction hquote h.trimmed
  have hmessage := messageOf_sentence h.trimmed
  obtain ⟨t, hread, hd, hm⟩ := ofText?_of_written h
  have hmetric : Scan.metricOf? (lineOf file line column function sentence) = m := by
    rw [Scan.metricOf?, hsplit, hmessage, hread, ← hm]
    rfl
  have hremark : s.remarkOf (lineOf file line column function sentence) =
      { Remark.plain .kernel .kernelInfo .analysis (.ofList sentence) with
        function := .ofList function
        location := some {
          file := some (.ofList file)
          line := some line
          column := some column
          function := some (.ofList function) }
        kernel := some d } := by
    simp only [Scan.remarkOf, hsplit, hmessage, hread, Option.map_some, hd, Scan.functionOf,
      Scan.locationOf, Heading.location, Heading.kernelName, Text.readUInt32?_numeral,
      Option.getD_some]
  rw [Scan.feed, hsplit, hmetric, hremark]
  cases m <;> rfl

theorem feed_lineOf_attribute :
    Scan.start.feed (lineOf "k.c".toList 13 0 "k".toList "arch-1.x = 'a=b'".toList) =
      { function := some "k"
        totals := .none
        remarks := [
          { Remark.plain .kernel .kernelInfo .analysis "arch-1.x = 'a=b'" with
            function := "k"
            location := some {
              file := some "k.c"
              line := some 13
              column := some 0
              function := some "k" }
            kernel := some (Descriptor.blank.applyAttribute "arch-1.x" "a=b") }] } :=
  feed_lineOf Scan.start 13 0 (by decide) (by decide) (by decide) (by decide)
    (@Written.attr "arch-1.x".toList "a=b".toList ⟨by decide, List.all_eq_true.1 (by decide)⟩
      (by decide) (Text.not_infix_of_occursIn (by decide)))

end BuildRemarks.Kernel
