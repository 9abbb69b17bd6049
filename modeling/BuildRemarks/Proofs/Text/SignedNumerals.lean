import BuildRemarks.Proofs.Text.Numerals

/-!
# Numerals with a sign

The texts that are read as numbers, said without the readers: a sign or none, then ASCII digits
of any number, leading zeros among them. A text is such a numeral in one way only. A number is
read from it if the value fits the word, and from no other text.
-/

namespace BuildRemarks.Text

/-- What may stand before the digits of a number. -/
inductive Sign where
  | none
  | plus
  | minus
  deriving DecidableEq

namespace Sign

def text : Sign → List Char
  | none => []
  | plus => ['+']
  | minus => ['-']

/-- The sign that a text begins with. -/
def ofText : List Char → Sign
  | '+' :: _ => plus
  | '-' :: _ => minus
  | _ => none

theorem ofText_cons_of_isDigit {c : Char} (h : c.isDigit = true) (cs : List Char) :
    ofText (c :: cs) = none := by
  rw [ofText.eq_def]
  split
  · rename_i hc
    obtain ⟨rfl, -⟩ := List.cons.inj hc
    exact absurd h (by decide)
  · rename_i hc
    obtain ⟨rfl, -⟩ := List.cons.inj hc
    exact absurd h (by decide)
  · rfl

theorem ofText_eq_minus_iff {cs : List Char} : ofText cs = minus ↔ ∃ ds, cs = '-' :: ds := by
  constructor
  · intro h
    rw [ofText.eq_def] at h
    split at h
    · exact absurd h (by decide)
    · exact ⟨_, rfl⟩
    · exact absurd h (by decide)
  · rintro ⟨ds, rfl⟩
    rfl

end Sign

/-- One or more ASCII digits behind a sign. -/
structure SignedNumeral where
  sign : Sign
  digits : List Char
  digits_ne_nil : digits ≠ [] := by decide
  isDigit_of_mem : ∀ c ∈ digits, c.isDigit = true := by simp

namespace SignedNumeral

def text (n : SignedNumeral) : List Char := n.sign.text ++ n.digits

/-- The value of the digits. -/
def magnitude (n : SignedNumeral) : Nat := Nat.ofDigitChars 10 n.digits 0

def value (n : SignedNumeral) : Int :=
  match n.sign with
  | .minus => -(n.magnitude : Int)
  | _ => n.magnitude

theorem value_of_minus {n : SignedNumeral} (h : n.sign = .minus) :
    n.value = -(n.magnitude : Int) := by
  rw [value, h]

theorem value_of_ne_minus {n : SignedNumeral} (h : n.sign ≠ .minus) :
    n.value = (n.magnitude : Int) := by
  rw [value]
  split
  · rename_i hminus
    exact absurd hminus h
  · rfl

theorem exists_cons_digits (n : SignedNumeral) :
    ∃ d ds, n.digits = d :: ds ∧ d.isDigit = true := by
  obtain ⟨d, ds, hdigits⟩ := List.exists_cons_of_ne_nil n.digits_ne_nil
  exact ⟨d, ds, hdigits, n.isDigit_of_mem d (hdigits ▸ List.mem_cons_self)⟩

theorem ofText_text (n : SignedNumeral) : Sign.ofText n.text = n.sign := by
  rw [text]
  cases n.sign with
  | none =>
    obtain ⟨d, ds, hdigits, hd⟩ := n.exists_cons_digits
    rw [hdigits]
    exact Sign.ofText_cons_of_isDigit hd ds
  | plus => rfl
  | minus => rfl

theorem text_injective {m n : SignedNumeral} (h : m.text = n.text) : m = n := by
  have hsign : m.sign = n.sign := by rw [← ofText_text, h, ofText_text]
  have hdigits : m.digits = n.digits := by
    rw [text, text, hsign] at h
    exact List.append_cancel_left h
  cases m
  cases n
  cases hsign
  cases hdigits
  rfl

/-- A character that is no digit does not stand behind the sign. -/
theorem notMem_text {n : SignedNumeral} {c : Char} (hdigit : c.isDigit = false)
    (hsign : c ∉ n.sign.text) : c ∉ n.text := by
  rw [text, List.mem_append, not_or]
  refine ⟨hsign, fun hmem => ?_⟩
  rw [n.isDigit_of_mem c hmem] at hdigit
  exact absurd hdigit (by decide)

/-! ### What is read from numerals -/

theorem readDigits?_digits (n : SignedNumeral) : readDigits? n.digits = some n.magnitude :=
  readDigits?_eq_some_iff.2 ⟨n.digits_ne_nil, n.isDigit_of_mem, rfl⟩

theorem readNat?_digits (n : SignedNumeral) : readNat? n.digits = some n.magnitude := by
  rw [readNat?_of_digits fun c hc => isDecimalDigit_of_isDigit (n.isDigit_of_mem c hc),
    n.readDigits?_digits]

/-- The numeral of digits that are read behind a sign. -/
theorem exists_of_readDigits? {cs : List Char} {k : Nat} (h : readDigits? cs = some k)
    (sign : Sign) : ∃ n : SignedNumeral, n.sign = sign ∧ n.digits = cs ∧ n.magnitude = k := by
  obtain ⟨hne, hdigit, hvalue⟩ := readDigits?_eq_some_iff.1 h
  exact ⟨⟨sign, cs, hne, hdigit⟩, rfl, rfl, hvalue⟩

end SignedNumeral

theorem readNat?_eq_some_iff {cs : List Char} {k : Nat} :
    readNat? cs = some k ↔
      ∃ n : SignedNumeral, n.text = cs ∧ n.sign ≠ .minus ∧ n.magnitude = k := by
  constructor
  · intro h
    rw [readNat?.eq_def] at h
    split at h
    · obtain ⟨n, hsign, hdigits, hvalue⟩ := SignedNumeral.exists_of_readDigits? h .plus
      refine ⟨n, ?_, by simp [hsign], hvalue⟩
      rw [SignedNumeral.text, hsign, hdigits]
      rfl
    · obtain ⟨n, hsign, hdigits, hvalue⟩ := SignedNumeral.exists_of_readDigits? h .none
      refine ⟨n, ?_, by simp [hsign], hvalue⟩
      rw [SignedNumeral.text, hsign, hdigits]
      rfl
  · rintro ⟨n, rfl, hsign, rfl⟩
    rw [SignedNumeral.text]
    cases hs : n.sign with
    | none => exact n.readNat?_digits
    | plus => exact n.readDigits?_digits
    | minus => exact absurd hs hsign

theorem readInt?_minus (cs : List Char) :
    readInt? ('-' :: cs) = (readDigits? cs).map fun k : Nat => -(k : Int) := by
  rw [readInt?]
  cases readDigits? cs <;> rfl

theorem readInt?_of_sign {cs : List Char} (h : Sign.ofText cs ≠ .minus) :
    readInt? cs = (readNat? cs).map fun k : Nat => (k : Int) := by
  rw [readInt?.eq_def]
  split
  · exact absurd rfl h
  · cases readNat? cs <;> rfl

theorem readInt?_eq_some_iff {cs : List Char} {v : Int} :
    readInt? cs = some v ↔ ∃ n : SignedNumeral, n.text = cs ∧ n.value = v := by
  by_cases hminus : Sign.ofText cs = .minus
  · obtain ⟨ds, rfl⟩ := Sign.ofText_eq_minus_iff.1 hminus
    rw [readInt?_minus, Option.map_eq_some_iff]
    constructor
    · rintro ⟨k, hk, rfl⟩
      obtain ⟨n, hsign, rfl, rfl⟩ := SignedNumeral.exists_of_readDigits? hk .minus
      refine ⟨n, ?_, SignedNumeral.value_of_minus hsign⟩
      rw [SignedNumeral.text, hsign]
      rfl
    · rintro ⟨n, htext, rfl⟩
      have hsign : n.sign = .minus := by rw [← n.ofText_text, htext, hminus]
      rw [SignedNumeral.text, hsign] at htext
      obtain rfl : n.digits = ds := (List.cons.inj htext).2
      exact ⟨n.magnitude, n.readDigits?_digits, (SignedNumeral.value_of_minus hsign).symm⟩
  · rw [readInt?_of_sign hminus, Option.map_eq_some_iff]
    constructor
    · rintro ⟨k, hk, rfl⟩
      obtain ⟨n, htext, hsign, rfl⟩ := readNat?_eq_some_iff.1 hk
      exact ⟨n, htext, SignedNumeral.value_of_ne_minus hsign⟩
    · rintro ⟨n, rfl, rfl⟩
      rw [n.ofText_text] at hminus
      exact ⟨n.magnitude, readNat?_eq_some_iff.2 ⟨n, rfl, hminus, rfl⟩,
        (SignedNumeral.value_of_ne_minus hminus).symm⟩

/-! ### Values that fit a word -/

/-- A numeral without a minus sign, of a value that fits 32 bits. -/
structure HalfWordNumeral extends SignedNumeral where
  sign_ne_minus : sign ≠ .minus := by decide
  magnitude_lt : toSignedNumeral.magnitude < UInt32.size := by decide

def HalfWordNumeral.word (n : HalfWordNumeral) : UInt32 := .ofNat n.magnitude

theorem HalfWordNumeral.text_injective {m n : HalfWordNumeral} (h : m.text = n.text) : m = n := by
  have hnumeral : m.toSignedNumeral = n.toSignedNumeral := SignedNumeral.text_injective h
  cases m
  cases n
  cases hnumeral
  rfl

theorem readUInt32?_eq_some_iff_numeral {cs : List Char} {w : UInt32} :
    readUInt32? cs = some w ↔ ∃ n : HalfWordNumeral, n.text = cs ∧ n.word = w := by
  rw [readUInt32?, Option.bind_eq_some_iff]
  constructor
  · rintro ⟨k, hk, hw⟩
    obtain ⟨n, htext, hsign, rfl⟩ := readNat?_eq_some_iff.1 hk
    split at hw
    · rename_i hlt
      exact ⟨⟨n, hsign, hlt⟩, htext, Option.some.inj hw⟩
    · exact absurd hw (by simp)
  · rintro ⟨n, htext, rfl⟩
    have hread : readNat? cs = some n.magnitude :=
      readNat?_eq_some_iff.2 ⟨n.toSignedNumeral, htext, n.sign_ne_minus, rfl⟩
    refine ⟨n.magnitude, hread, ?_⟩
    rw [if_pos n.magnitude_lt, HalfWordNumeral.word]

/-- The integer is one of 64 bits. -/
def InWord (v : Int) : Prop := Int64.minValue.toInt ≤ v ∧ v ≤ Int64.maxValue.toInt

instance (v : Int) : Decidable (InWord v) :=
  inferInstanceAs (Decidable (Int64.minValue.toInt ≤ v ∧ v ≤ Int64.maxValue.toInt))

theorem inWord_toInt (w : Int64) : InWord w.toInt := by
  rw [InWord, Int64.toInt_minValue, Int64.toInt_maxValue]
  have hle := w.le_toInt
  have hlt := w.toInt_lt
  omega

theorem toInt_ofInt_of_inWord {v : Int} (h : InWord v) : (Int64.ofInt v).toInt = v := by
  rw [InWord, Int64.toInt_minValue, Int64.toInt_maxValue] at h
  exact Int64.toInt_ofInt_of_le h.1 (by omega)

theorem readInt64?_eq_some_iff {cs : List Char} {w : Int64} :
    readInt64? cs = some w ↔ ∃ n : SignedNumeral, n.text = cs ∧ n.value = w.toInt := by
  rw [readInt64?, Option.bind_eq_some_iff]
  constructor
  · rintro ⟨v, hv, hw⟩
    obtain ⟨n, htext, rfl⟩ := readInt?_eq_some_iff.1 hv
    split at hw
    · rename_i hin
      rw [← Option.some.inj hw]
      exact ⟨n, htext, (toInt_ofInt_of_inWord hin).symm⟩
    · exact absurd hw (by simp)
  · rintro ⟨n, htext, hvalue⟩
    refine ⟨n.value, readInt?_eq_some_iff.2 ⟨n, htext, rfl⟩, ?_⟩
    rw [hvalue]
    exact (if_pos (inWord_toInt w)).trans (congrArg some w.ofInt_toInt)

end BuildRemarks.Text
