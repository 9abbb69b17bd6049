import BuildRemarks.Text.Blank
import BuildRemarks.Text.Search

/-!
# Where a word can occur

A word that lacks a character cannot stand across that character: it occurs in a text exactly
if it occurs in one of the parts that the character divides. What a recogniser needs is a word
that occurs, so that where the word does not occur nothing is found.
-/

namespace BuildRemarks.Text

/-! ### Occurrences -/

theorem not_infix_of_occursIn {w cs : List Char} (h : occursIn w cs = false) : ¬ w <:+: cs := by
  rw [← occursIn_iff, h]
  exact Bool.false_ne_true

theorem infix_append_cons_iff {c : Char} {w : List Char} (hc : c ∉ w) (a b : List Char) :
    w <:+: a ++ c :: b ↔ w <:+: a ∨ w <:+: b := by
  -- a beginning of `c :: b` that is a part of `w` is empty
  have hnil {u : List Char} (hu : u <+: c :: b) (hw : c ∉ u) : u = [] := by
    cases u with
    | nil => rfl
    | cons d u =>
      have hd : d = c := (List.cons_prefix_cons.1 hu).1
      exact absurd (hd ▸ List.mem_cons_self) hw
  constructor
  · intro h
    rcases List.infix_append_iff.1 h with h | h | ⟨u, v, huv, hu, hv⟩
    · exact Or.inl h
    · rcases List.infix_cons_iff.1 h with h | h
      · rw [hnil h hc]
        exact Or.inl (List.nil_infix)
      · exact Or.inr h
    · have hv0 := hnil hv fun hmem => hc (huv ▸ List.mem_append_right u hmem)
      rw [huv, hv0, List.append_nil]
      exact Or.inl hu.isInfix
  · rintro (h | h)
    · exact List.infix_append_of_infix_left h
    · exact List.infix_append_of_infix_right (List.infix_cons h)

/-- A word does not begin in a text that lacks its first character. -/
theorem infix_append_iff_of_notMem {c : Char} {w a : List Char} (hc : c ∉ a) (b : List Char) :
    c :: w <:+: a ++ b ↔ c :: w <:+: b := by
  constructor
  · intro h
    rcases List.infix_append_iff.1 h with h | h | ⟨u, v, huv, hu, hv⟩
    · exact absurd (h.subset List.mem_cons_self) hc
    · exact h
    · cases u with
      | nil =>
        rw [huv]
        exact hv.isInfix
      | cons d u =>
        have hd : c = d := (List.cons.inj huv).1
        exact absurd (hu.subset (hd ▸ List.mem_cons_self)) hc
  · exact List.infix_append_of_infix_right

/-- Two words with a stop between them stand around the first stop of a text or behind it. -/
theorem infix_across_iff {c : Char} {u a : List Char} (hu : c ∉ u) (ha : c ∉ a)
    (v b : List Char) :
    u ++ c :: v <:+: a ++ c :: b ↔ (u <:+ a ∧ v <+: b) ∨ u ++ c :: v <:+: b := by
  have hcut {x y : List Char} (hx : c ∉ x) (h : u ++ c :: v = x ++ y) (hy : y <+: c :: b) :
      u = x ∧ v <+: b := by
    rcases List.append_eq_append_iff.1 h with ⟨z, hz, hv⟩ | ⟨z, hz, hy'⟩
    · cases z with
      | nil =>
        rw [List.append_nil] at hz
        rw [List.nil_append] at hv
        rw [← hv] at hy
        exact ⟨hz.symm, (List.cons_prefix_cons.1 hy).2⟩
      | cons d z =>
        have hd : c = d := (List.cons.inj hv).1
        rw [hz, ← hd] at hx
        exact absurd (List.mem_append_right u List.mem_cons_self) hx
    · cases z with
      | nil =>
        rw [List.append_nil] at hz
        rw [hy', List.nil_append] at hy
        exact ⟨hz, (List.cons_prefix_cons.1 hy).2⟩
      | cons d z =>
        rw [hy', List.cons_append] at hy
        have hd : d = c := (List.cons_prefix_cons.1 hy).1
        rw [hz, hd] at hu
        exact absurd (List.mem_append_right x List.mem_cons_self) hu
  constructor
  · intro h
    rcases List.infix_append_iff.1 h with h | h | ⟨x, y, hxy, hx, hy⟩
    · exact absurd (h.subset (List.mem_append_right u List.mem_cons_self)) ha
    · rcases List.infix_cons_iff.1 h with h | h
      · obtain ⟨rfl, hv⟩ := hcut List.not_mem_nil rfl h
        exact Or.inl ⟨List.nil_suffix, hv⟩
      · exact Or.inr h
    · obtain ⟨rfl, hv⟩ := hcut (fun hmem => ha (hx.subset hmem)) hxy hy
      exact Or.inl ⟨hx, hv⟩
  · rintro (⟨⟨x, rfl⟩, ⟨y, rfl⟩⟩ | h)
    · exact ⟨x, y, by simp only [List.append_assoc, List.cons_append]⟩
    · exact List.infix_append_of_infix_right (List.infix_cons h)

/-! ### Searches -/

variable {α : Type} {here : List Char → Option α} {cs : List Char} {a : α}

theorem firstMatch_of_here (h : here cs = some a) : firstMatch here cs = some a := by
  cases cs with
  | nil => exact h
  | cons c cs => rw [firstMatch, h]

/-- What a search finds stands somewhere in the text. -/
theorem exists_here_of_firstMatch (h : firstMatch here cs = some a) :
    ∃ front rest, cs = front ++ rest ∧ here rest = some a := by
  induction cs with
  | nil => exact ⟨[], [], rfl, h⟩
  | cons c cs ih =>
    rw [firstMatch] at h
    split at h
    · rename_i b hhere
      cases h
      exact ⟨[], c :: cs, rfl, hhere⟩
    · obtain ⟨front, rest, rfl, hrest⟩ := ih h
      exact ⟨c :: front, rest, rfl, hrest⟩

theorem firstMatchAtWord_of_here (h : here cs = some a) :
    firstMatchAtWord here false cs = some a := by
  cases cs with
  | nil => exact h
  | cons c cs =>
    simp only [firstMatchAtWord, Bool.false_eq_true, if_false, h]

theorem firstMatchAtWord_eq_none (h : ∀ t, t <:+ cs → here t = none) (inWord : Bool) :
    firstMatchAtWord here inWord cs = none := by
  induction cs generalizing inWord with
  | nil =>
    rw [firstMatchAtWord, h [] List.nil_suffix, ite_self]
  | cons c cs ih =>
    have hrest : ∀ t, t <:+ cs → here t = none := fun t ht =>
      h t (ht.trans (List.suffix_cons c cs))
    rw [firstMatchAtWord, h (c :: cs) (List.suffix_refl _), ite_self]
    exact ih hrest _

/-- A recogniser that needs one of some words finds nothing where none of them occurs. -/
theorem firstMatchAtWord_eq_none_of_needs (needed : List Char → Prop)
    (hneeds : ∀ t a, here t = some a → ∃ w, needed w ∧ w <:+: t)
    (h : ∀ w, needed w → ¬ w <:+: cs) (inWord : Bool) :
    firstMatchAtWord here inWord cs = none := by
  refine firstMatchAtWord_eq_none (fun t ht => ?_) inWord
  refine Option.eq_none_iff_forall_ne_some.2 fun a ha => ?_
  obtain ⟨w, hw, hin⟩ := hneeds t a ha
  exact h w hw (hin.trans ht.isInfix)

/-! ### Ends of a text -/

theorem isBlank_of_visible {c : Char} (h : 0x21 ≤ c.toNat) (h' : c.toNat ≤ 0x7E) :
    isBlank c = false := by
  rw [Bool.eq_false_iff, ne_eq, isBlank, inRanges_iff]
  rintro ⟨r, hr, h₁, h₂⟩
  simp only [blankRanges, List.mem_cons, List.not_mem_nil, or_false] at hr
  rcases hr with rfl | rfl | rfl | rfl | rfl | rfl | rfl | rfl | rfl | rfl <;>
    simp only at h₁ h₂ <;> omega

theorem getLast?_append_of_some {a b : List Char} {c : Char} (h : b.getLast? = some c) :
    (a ++ b).getLast? = some c := by
  rw [List.getLast?_append, h]
  rfl

theorem getLast?_cons_of_some {cs : List Char} {c : Char} (h : cs.getLast? = some c)
    (d : Char) : (d :: cs).getLast? = some c :=
  getLast?_append_of_some (a := [d]) h

theorem trimStart_eq_self (h : ∀ c, cs.head? = some c → isBlank c = false) :
    trimStart cs = cs := by
  cases cs with
  | nil => rfl
  | cons c cs =>
    rw [trimStart, List.dropWhile_cons, h c rfl]
    rfl

theorem trimEnd_eq_self (h : ∀ c, cs.getLast? = some c → isBlank c = false) :
    trimEnd cs = cs := by
  have hreverse : trimStart cs.reverse = cs.reverse := by
    refine trimStart_eq_self fun c hc => h c ?_
    rw [← List.head?_reverse, hc]
  rw [trimEnd, ← trimStart, hreverse, List.reverse_reverse]

theorem trim_eq_self (hhead : ∀ c, cs.head? = some c → isBlank c = false)
    (hlast : ∀ c, cs.getLast? = some c → isBlank c = false) : trim cs = cs := by
  rw [trim, trimStart_eq_self hhead, trimEnd_eq_self hlast]

end BuildRemarks.Text
