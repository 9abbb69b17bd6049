import BuildRemarks.Text.Lines

/-!
# Lines of encoded text

The bytes of a character outside ASCII are all at least 0x80, so a line feed or a carriage
return among the bytes of a text is the encoding of that character. Hence the lines of the
bytes are the encodings of the lines of the text, and all of them are text again.
-/

namespace BuildRemarks.Text

def encode (cs : List Char) : Bytes := cs.flatMap String.utf8EncodeChar

theorem encode_cons (c : Char) (cs : List Char) :
    encode (c :: cs) = String.utf8EncodeChar c ++ encode cs := List.flatMap_cons

theorem encode_append (cs ds : List Char) : encode (cs ++ ds) = encode cs ++ encode ds :=
  List.flatMap_append

theorem decode?_eq_some_iff {bytes : Bytes} {s : String} :
    decode? bytes = some s ↔ bytes = encode s.toList := by
  have harray : (⟨bytes.toArray⟩ : ByteArray) = bytes.toByteArray :=
    ByteArray.ext List.data_toByteArray.symm
  have hback : s.toByteArray = (encode s.toList).toByteArray := by
    conv => lhs; rw [← String.ofList_toList (s := s), String.toByteArray_ofList]
    rfl
  rw [decode?, harray, String.fromUTF8?]
  constructor
  · intro h
    split at h
    · rename_i hv
      have hs : bytes.toByteArray = s.toByteArray :=
        congrArg String.toByteArray (Option.some.inj h)
      have hd := congrArg (fun b => b.data.toList) (hs.trans hback)
      simpa only [List.toList_data_toByteArray] using hd
    · exact absurd h (by simp)
  · intro h
    have hs : bytes.toByteArray = s.toByteArray := by rw [hback, h]
    have hv : bytes.toByteArray.IsValidUTF8 := hs ▸ s.isValidUTF8
    rw [dif_pos hv, Option.some.injEq]
    exact String.toByteArray_inj.1 hs

theorem decode?_encode (cs : List Char) : decode? (encode cs) = some (.ofList cs) :=
  decode?_eq_some_iff.2 (by rw [String.toList_ofList])

/-! ### Bytes of a character -/

theorem utf8EncodeChar_of_ascii {c : Char} (h : c.toNat < 0x80) :
    String.utf8EncodeChar c = [UInt8.ofNat c.toNat] := by
  have hv : c.val.toNat ≤ 0x7f := Nat.le_of_lt_succ h
  rw [String.utf8EncodeChar, if_pos hv]
  rfl

theorem le_of_mem_utf8EncodeChar {c : Char} (h : 0x80 ≤ c.toNat) {b : UInt8}
    (hb : b ∈ String.utf8EncodeChar c) : 0x80 ≤ b.toNat := by
  have hv : ¬ c.val.toNat ≤ 0x7f := Nat.not_le.2 h
  have hsmall (n : Nat) (h₁ : 0x80 ≤ n) (h₂ : n < 0x100) :
      0x80 ≤ (UInt8.ofNat n).toNat := by
    rw [UInt8.toNat_ofNat', Nat.mod_eq_of_lt h₂]
    exact h₁
  rw [String.utf8EncodeChar, if_neg hv] at hb
  split at hb
  · simp only [List.mem_cons, List.not_mem_nil, or_false] at hb
    rcases hb with rfl | rfl <;> exact hsmall _ (by omega) (by omega)
  · split at hb
    · simp only [List.mem_cons, List.not_mem_nil, or_false] at hb
      rcases hb with rfl | rfl | rfl <;> exact hsmall _ (by omega) (by omega)
    · simp only [List.mem_cons, List.not_mem_nil, or_false] at hb
      rcases hb with rfl | rfl | rfl | rfl <;> exact hsmall _ (by omega) (by omega)

/-- An ASCII byte among the bytes of a character is the whole character. -/
theorem ne_of_mem_utf8EncodeChar {a c : Char} (ha : a.toNat < 0x80) (hne : c ≠ a) {b : UInt8}
    (h : b ∈ String.utf8EncodeChar c) : b ≠ UInt8.ofNat a.toNat := by
  have hbyte (n : Nat) (hn : n < 0x80) : (UInt8.ofNat n).toNat = n := by
    rw [UInt8.toNat_ofNat']
    omega
  rintro rfl
  by_cases hc : c.toNat < 0x80
  · rw [utf8EncodeChar_of_ascii hc, List.mem_singleton] at h
    have hn := congrArg UInt8.toNat h
    rw [hbyte _ ha, hbyte _ hc] at hn
    exact hne (by rw [← Char.ofNat_toNat c, ← hn, Char.ofNat_toNat])
  · have hle := le_of_mem_utf8EncodeChar (Nat.not_lt.1 hc) h
    rw [hbyte _ ha] at hle
    omega

/-! ### Lines -/

def prepend {α : Type} (front : List α) : List (List α) → List (List α)
  | [] => [front]
  | line :: lines => (front ++ line) :: lines

theorem rawLines_return {rest : Bytes} (h : rest.head? = some 0x0A) :
    rawLines (0x0D :: rest) = rawLines rest := by
  rw [rawLines, if_neg (by decide), if_pos ⟨rfl, h⟩]

/-- A byte that ends no line belongs to the line behind it. -/
theorem rawLines_cons {b : UInt8} {rest : Bytes} (hn : b ≠ 0x0A)
    (hr : ¬ (b = 0x0D ∧ rest.head? = some 0x0A)) :
    rawLines (b :: rest) = prepend [b] (rawLines rest) := by
  rw [rawLines, if_neg hn, if_neg hr]
  cases rawLines rest <;> rfl

theorem rawLines_append {bs : Bytes} (hne : bs ≠ [])
    (h : ∀ b ∈ bs, b ≠ 0x0A ∧ b ≠ 0x0D) (rest : Bytes) :
    rawLines (bs ++ rest) = prepend bs (rawLines rest) := by
  have hone (b : UInt8) (hb : b ≠ 0x0A ∧ b ≠ 0x0D) (rest : Bytes) :
      rawLines (b :: rest) = prepend [b] (rawLines rest) :=
    rawLines_cons hb.1 fun hr => hb.2 hr.1
  induction bs with
  | nil => exact absurd rfl hne
  | cons b bs ih =>
    rw [List.cons_append, hone b (h b List.mem_cons_self)]
    cases bs with
    | nil => rfl
    | cons d ds =>
      rw [ih (List.cons_ne_nil d ds) fun x hx => h x (List.mem_cons_of_mem b hx)]
      cases rawLines rest <;> rfl

/-- The lines of a text, without their endings. -/
def textLines : List Char → List (List Char)
  | [] => []
  | c :: cs =>
    if c = '\n' then [] :: textLines cs
    else if c = '\r' ∧ cs.head? = some '\n' then textLines cs
    else prepend [c] (textLines cs)

/-- A line that nothing breaks reaches to the line feed behind it. -/
theorem textLines_unbroken {line : List Char} (hn : '\n' ∉ line) (hr : '\r' ∉ line)
    (rest : List Char) : textLines (line ++ '\n' :: rest) = line :: textLines rest := by
  induction line with
  | nil => rw [List.nil_append, textLines, if_pos rfl]
  | cons c line ih =>
    rw [List.mem_cons, not_or] at hn hr
    rw [List.cons_append, textLines, if_neg (Ne.symm hn.1), if_neg fun h => hr.1 h.1.symm,
      ih hn.2 hr.2]
    rfl

theorem head?_encode_eq_newline_iff (cs : List Char) :
    (encode cs).head? = some 0x0A ↔ cs.head? = some '\n' := by
  cases cs with
  | nil => simp [encode]
  | cons c cs =>
    obtain ⟨b, bs, hb⟩ := List.exists_cons_of_ne_nil (String.utf8EncodeChar_ne_nil (c := c))
    have hmem : b ∈ String.utf8EncodeChar c := hb ▸ List.mem_cons_self
    rw [encode_cons, hb, List.cons_append, List.head?_cons, List.head?_cons,
      Option.some.injEq, Option.some.injEq]
    constructor
    · intro hnl
      refine Decidable.byContradiction fun hne => ?_
      exact ne_of_mem_utf8EncodeChar (a := '\n') (by decide) hne hmem hnl
    · rintro rfl
      exact (List.cons.inj hb).1.symm

theorem rawLines_encode (cs : List Char) :
    rawLines (encode cs) = (textLines cs).map encode := by
  have hprepend (c : Char) (lines : List (List Char)) :
      prepend (String.utf8EncodeChar c) (lines.map encode) =
        (prepend [c] lines).map encode := by
    cases lines with
    | nil => exact congrArg (fun x => [x]) (List.append_nil _).symm
    | cons line lines => exact congrArg (· :: lines.map encode) (encode_cons c line).symm
  induction cs with
  | nil => rfl
  | cons c cs ih =>
    rw [encode_cons, textLines]
    by_cases hn : c = '\n'
    · subst hn
      rw [if_pos rfl, List.map_cons, ← ih]
      exact rawLines_newline (encode cs)
    · rw [if_neg hn]
      by_cases hr : c = '\r'
      · subst hr
        show rawLines (0x0D :: encode cs) = _
        by_cases hhead : cs.head? = some '\n'
        · rw [rawLines_return ((head?_encode_eq_newline_iff cs).2 hhead), if_pos ⟨rfl, hhead⟩]
          exact ih
        · have hbyte : (encode cs).head? ≠ some 0x0A :=
            mt (head?_encode_eq_newline_iff cs).1 hhead
          rw [rawLines_cons (by decide) fun h => hbyte h.2, if_neg fun h => hhead h.2,
            ← hprepend, ← ih]
          rfl
      · have hplain : ∀ b ∈ String.utf8EncodeChar c, b ≠ 0x0A ∧ b ≠ 0x0D := fun b hb =>
          ⟨ne_of_mem_utf8EncodeChar (a := '\n') (by decide) hn hb,
            ne_of_mem_utf8EncodeChar (a := '\r') (by decide) hr hb⟩
        rw [if_neg fun h => hr h.1, ← hprepend, ← ih]
        exact rawLines_append String.utf8EncodeChar_ne_nil hplain (encode cs)

theorem mapM_decode?_encode (lines : List (List Char)) :
    (lines.map encode).mapM decode? = some (lines.map String.ofList) := by
  induction lines with
  | nil => rfl
  | cons line lines ih =>
    rw [List.map_cons, List.mapM_cons, decode?_encode, ih]
    rfl

theorem lines?_encode (cs : List Char) :
    lines? (encode cs) = some ((textLines cs).map String.ofList) := by
  rw [lines?, rawLines_encode, mapM_decode?_encode]

end BuildRemarks.Text
