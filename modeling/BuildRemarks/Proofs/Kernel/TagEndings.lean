import BuildRemarks.Kernel.PassTag
import BuildRemarks.Proofs.Text.Trimming

/-!
# Texts that end in a pass tag

Which texts end in a tag, and what they are without it, said without the search for the tag. The
tag of a text is what its last brackets enclose, from the first opening bracket on that nothing
closes before the end. It goes together with the blanks before it.
-/

namespace BuildRemarks.Kernel

/-- An opening bracket stands in the text without a closing one behind it. -/
def Unclosed (cs : List Char) : Prop :=
  ∃ before inside, cs = before ++ '[' :: inside ∧ ']' ∉ inside

/-- The text ends in the tag between brackets, and no bracket before them is left open. -/
def EndsInTag (cs tag : List Char) : Prop :=
  ∃ front, cs = front ++ '[' :: (tag ++ [']']) ∧ ¬ Unclosed front ∧ tag ≠ [] ∧
    ']' ∉ tag

/-- What is left of a text when the tag that it ends in is taken off, with all blanks before the
tag. A text that ends in no tag stays as it is. -/
inductive Untagged : List Char → List Char → Prop
  | tagged {body blanks tag : List Char}
      (hlast : ∀ c, body.getLast? = some c → Text.isBlank c = false) (hopen : ¬ Unclosed body)
      (hblanks : Text.Blanks blanks) (hne : tag ≠ []) (hclose : ']' ∉ tag) :
      Untagged (body ++ (blanks ++ '[' :: (tag ++ [']']))) body
  | bare {body : List Char} (h : ∀ tag, ¬ EndsInTag body tag) : Untagged body body

/-! ### Unclosed brackets -/

theorem Unclosed.cons {cs : List Char} (h : Unclosed cs) (c : Char) : Unclosed (c :: cs) := by
  obtain ⟨before, inside, rfl, hclose⟩ := h
  exact ⟨c :: before, inside, rfl, hclose⟩

/-- The bracket that is not closed is the first character or stands behind it. -/
theorem unclosed_cons_iff {c : Char} {cs : List Char} :
    Unclosed (c :: cs) ↔ (c = '[' ∧ ']' ∉ cs) ∨ Unclosed cs := by
  constructor
  · rintro ⟨before, inside, heq, hclose⟩
    cases before with
    | nil =>
      obtain ⟨rfl, rfl⟩ := List.cons.inj heq
      exact Or.inl ⟨rfl, hclose⟩
    | cons d before =>
      obtain ⟨rfl, rfl⟩ := List.cons.inj heq
      exact Or.inr ⟨before, inside, rfl, hclose⟩
  · rintro (⟨rfl, hclose⟩ | h)
    · exact ⟨[], cs, rfl, hclose⟩
    · exact h.cons c

theorem not_unclosed_nil : ¬ Unclosed [] := by
  rintro ⟨before, inside, heq, -⟩
  exact absurd heq (by simp)

theorem not_unclosed_of_notMem {cs : List Char} (h : '[' ∉ cs) : ¬ Unclosed cs := by
  rintro ⟨before, inside, rfl, -⟩
  exact h (List.mem_append_right before List.mem_cons_self)

instance decidableUnclosed : (cs : List Char) → Decidable (Unclosed cs)
  | [] => isFalse not_unclosed_nil
  | c :: cs =>
    have := decidableUnclosed cs
    decidable_of_iff ((c = '[' ∧ ']' ∉ cs) ∨ Unclosed cs) unclosed_cons_iff.symm

theorem Unclosed.append_of_notMem {cs : List Char} (h : Unclosed cs) {trail : List Char}
    (htrail : ']' ∉ trail) : Unclosed (cs ++ trail) := by
  obtain ⟨before, inside, rfl, hclose⟩ := h
  refine ⟨before, inside ++ trail, ?_, ?_⟩
  · rw [List.append_assoc, List.cons_append]
  · rw [List.mem_append, not_or]
    exact ⟨hclose, htrail⟩

/-- A text that leaves no bracket open does so without the blanks that it ends in. -/
theorem exists_blanks_of_not_unclosed {front : List Char} (h : ¬ Unclosed front) :
    ∃ trail, Text.Blanks trail ∧ ¬ Unclosed (Text.trimEnd front) ∧
      ∀ back, front ++ back = Text.trimEnd front ++ (trail ++ back) := by
  obtain ⟨trail, htrail, hfront⟩ := Text.exists_trimEnd_append front
  refine ⟨trail, htrail, fun hopen => ?_, fun back => ?_⟩
  · have hfree : ']' ∉ trail := fun hmem => absurd (htrail ']' hmem) (by decide)
    rw [hfront] at h
    exact h (hopen.append_of_notMem hfree)
  · rw [← List.append_assoc, ← hfront]

theorem unclosed_append_singleton_iff {c : Char} (hopen : c ≠ '[') (hclose : c ≠ ']')
    (cs : List Char) : Unclosed (cs ++ [c]) ↔ Unclosed cs := by
  induction cs with
  | nil =>
    rw [List.nil_append, unclosed_cons_iff]
    exact or_iff_right fun h => hopen h.1
  | cons d cs ih =>
    have hmem : ']' ∉ cs ++ [c] ↔ ']' ∉ cs := by
      simp [hclose.symm]
    rw [List.cons_append, unclosed_cons_iff, unclosed_cons_iff, ih, hmem]

/-- The first of the brackets that are not closed has none before it. -/
theorem Unclosed.exists_first {cs : List Char} (h : Unclosed cs) :
    ∃ before inside, cs = before ++ '[' :: inside ∧ ']' ∉ inside ∧ ¬ Unclosed before := by
  induction cs with
  | nil => exact absurd h not_unclosed_nil
  | cons c cs ih =>
    by_cases hhere : c = '[' ∧ ']' ∉ cs
    · obtain ⟨rfl, hclose⟩ := hhere
      exact ⟨[], cs, rfl, hclose, not_unclosed_nil⟩
    · obtain ⟨before, inside, rfl, hclose, hfirst⟩ :=
        ih ((unclosed_cons_iff.1 h).resolve_left hhere)
      refine ⟨c :: before, inside, rfl, hclose, fun hbefore => ?_⟩
      obtain ⟨rfl, hnot⟩ := (unclosed_cons_iff.1 hbefore).resolve_right hfirst
      refine hhere ⟨rfl, fun hmem => ?_⟩
      rcases List.mem_append.1 hmem with hmem | hmem
      · exact hnot hmem
      · exact hclose (List.mem_of_ne_of_mem (by decide) hmem)

/-! ### A tag behind a text -/

/-- A tag does not begin in a text that ends in no blank, unless with a bracket that the text
leaves open. -/
theorem passTag?_append_eq_none {front : List Char} (hne : front ≠ [])
    (hlast : ∀ c, front.getLast? = some c → Text.isBlank c = false) (hopen : ¬ Unclosed front)
    (rest : List Char) : passTag? (front ++ (rest ++ [']'])) = none := by
  induction front with
  | nil => exact absurd rfl hne
  | cons c front ih =>
    by_cases hc : Text.isBlank c = true
    · have hfront : front ≠ [] := by
        rintro rfl
        rw [hlast c rfl] at hc
        exact Bool.false_ne_true hc
      rw [List.cons_append, passTag?, List.dropWhile_cons_of_pos hc, ← passTag?]
      exact ih hfront (fun d hd => hlast d (Text.getLast?_cons_of_some hd c))
        fun h => hopen (h.cons c)
    · refine Option.eq_none_iff_forall_ne_some.2 fun found hfound => hopen ?_
      rw [List.cons_append, passTag?, List.dropWhile_cons_of_neg hc] at hfound
      obtain ⟨-, hfree, htext⟩ := Text.bracketed?_eq_some_iff.1 hfound
      -- the tag would run from the bracket here over the rest of the front
      obtain ⟨rfl, hbehind⟩ := List.cons.inj htext
      rw [← List.append_assoc] at hbehind
      have hall : front ++ rest = found := List.append_cancel_right hbehind
      refine ⟨[], front, rfl, fun hmem => hfree ?_⟩
      rw [← hall]
      exact List.mem_append_left rest hmem

section Tag

variable {tag : List Char} (hne : tag ≠ []) (hclose : ']' ∉ tag)

include hne hclose

theorem splitPassTag_blanks_tag {blanks : List Char} (hblanks : Text.Blanks blanks) :
    splitPassTag (blanks ++ '[' :: (tag ++ [']'])) = ([], some tag) := by
  have hhere : passTag? (blanks ++ '[' :: (tag ++ [']'])) = some tag := by
    rw [passTag?, List.dropWhile_append_of_pos hblanks, List.dropWhile_cons_of_neg (by decide)]
    exact Text.bracketed?_eq_some_iff.2 ⟨hne, hclose, rfl⟩
  obtain ⟨c, cs, hcs⟩ : ∃ c cs, blanks ++ '[' :: (tag ++ [']']) = c :: cs :=
    List.exists_cons_of_ne_nil (by simp)
  rw [hcs] at hhere
  rw [hcs, splitPassTag, hhere]

theorem splitPassTag_append_tag_of_last {front blanks : List Char}
    (hlast : ∀ c, front.getLast? = some c → Text.isBlank c = false) (hopen : ¬ Unclosed front)
    (hblanks : Text.Blanks blanks) :
    splitPassTag (front ++ (blanks ++ '[' :: (tag ++ [']']))) = (front, some tag) := by
  induction front with
  | nil => exact splitPassTag_blanks_tag hne hclose hblanks
  | cons c front ih =>
    have hnone : passTag? (c :: (front ++ (blanks ++ '[' :: (tag ++ [']'])))) = none := by
      have h := passTag?_append_eq_none (List.cons_ne_nil c front) hlast hopen
        (blanks ++ '[' :: tag)
      rwa [List.append_assoc, List.cons_append, List.cons_append] at h
    have hfront := ih (fun d hd => hlast d (Text.getLast?_cons_of_some hd c))
      fun h => hopen (h.cons c)
    rw [List.cons_append, splitPassTag, hnone, hfront]

/-- The blanks that end a text are taken off it with the tag. -/
theorem splitPassTag_append_tag {front blanks : List Char} (hopen : ¬ Unclosed front)
    (hblanks : Text.Blanks blanks) :
    splitPassTag (front ++ (blanks ++ '[' :: (tag ++ [']']))) =
      (Text.trimEnd front, some tag) := by
  obtain ⟨trail, htrail, hcore, hfront⟩ := exists_blanks_of_not_unclosed hopen
  have hall : Text.Blanks (trail ++ blanks) := by
    intro c hc
    rcases List.mem_append.1 hc with hc | hc
    · exact htrail c hc
    · exact hblanks c hc
  rw [hfront, ← List.append_assoc trail]
  exact splitPassTag_append_tag_of_last hne hclose
    (fun _ hc => Text.isBlank_last_trimEnd hc) hcore hall

theorem splitPassTag_append_bracket {front : List Char} (hopen : ¬ Unclosed front) :
    splitPassTag (front ++ '[' :: (tag ++ [']'])) = (Text.trimEnd front, some tag) :=
  splitPassTag_append_tag hne hclose hopen (List.forall_mem_nil _)

end Tag

/-! ### The tag of a text -/

theorem endsInTag_of_passTag? {cs tag : List Char} (h : passTag? cs = some tag) :
    EndsInTag cs tag := by
  obtain ⟨hne, hclose, hdrop⟩ := Text.bracketed?_eq_some_iff.1 h
  refine ⟨cs.takeWhile Text.isBlank, ?_, not_unclosed_of_notMem fun hmem => ?_, hne, hclose⟩
  · have htag : '[' :: (tag ++ [']']) = cs.dropWhile Text.isBlank := hdrop.symm
    rw [htag, List.takeWhile_append_dropWhile]
  · exact absurd (Text.blanks_takeWhile cs '[' hmem) (by decide)

theorem endsInTag_of_passTagOf {cs tag : List Char} (h : passTagOf cs = some tag) :
    EndsInTag cs tag := by
  induction cs with
  | nil => exact absurd h (by simp [passTagOf, splitPassTag])
  | cons c cs ih =>
    rw [passTagOf, splitPassTag] at h
    cases hhere : passTag? (c :: cs) with
    | some found =>
      rw [hhere] at h
      cases h
      exact endsInTag_of_passTag? hhere
    | none =>
      rw [hhere] at h
      obtain ⟨front, rfl, hfront, hne, hclose⟩ := ih h
      refine ⟨c :: front, rfl, fun hopen => ?_, hne, hclose⟩
      -- a bracket here that stayed open would have been taken for the start of the tag
      obtain ⟨rfl, hinside⟩ := (unclosed_cons_iff.1 hopen).resolve_right hfront
      have hlonger : Text.bracketed? ('[' :: (front ++ '[' :: (tag ++ [']']))) =
          some (front ++ '[' :: tag) := by
        refine Text.bracketed?_eq_some_iff.2 ⟨by simp, ?_, by simp⟩
        simp [hinside, hclose]
      rw [passTag?, List.dropWhile_cons_of_neg (by decide), hlonger] at hhere
      exact absurd hhere (by simp)

theorem passTagOf_eq_some_iff {cs tag : List Char} :
    passTagOf cs = some tag ↔ EndsInTag cs tag := by
  constructor
  · exact endsInTag_of_passTagOf
  · rintro ⟨front, rfl, hfront, hne, hclose⟩
    rw [passTagOf, splitPassTag_append_bracket hne hclose hfront]

theorem passTagOf_eq_none_iff {cs : List Char} :
    passTagOf cs = none ↔ ∀ tag, ¬ EndsInTag cs tag := by
  rw [Option.eq_none_iff_forall_ne_some]
  exact forall_congr' fun tag => not_congr passTagOf_eq_some_iff

/-! ### A text without its tag -/

theorem splitPassTag_of_passTagOf_eq_none {cs : List Char} (h : passTagOf cs = none) :
    splitPassTag cs = (cs, none) := by
  induction cs with
  | nil => rfl
  | cons c cs ih =>
    rw [passTagOf, splitPassTag] at h
    cases hhere : passTag? (c :: cs) with
    | some found =>
      rw [hhere] at h
      exact absurd h (by simp)
    | none =>
      rw [hhere] at h
      rw [splitPassTag, hhere, ih h]

theorem splitPassTag_of_getLast?_ne {cs : List Char} (h : cs.getLast? ≠ some ']') :
    splitPassTag cs = (cs, none) := by
  refine splitPassTag_of_passTagOf_eq_none (passTagOf_eq_none_iff.2 ?_)
  rintro tag ⟨front, rfl, -⟩
  exact h (Text.getLast?_append_of_some (Text.getLast?_cons_of_some List.getLast?_concat '['))

theorem untagged_iff {cs body : List Char} : Untagged cs body ↔ withoutPassTag cs = body := by
  constructor
  · intro h
    cases h with
    | tagged hlast hopen hblanks hne hclose =>
      rw [withoutPassTag, splitPassTag_append_tag_of_last hne hclose hlast hopen hblanks]
    | bare h =>
      rw [withoutPassTag, splitPassTag_of_passTagOf_eq_none (passTagOf_eq_none_iff.2 h)]
  · rintro rfl
    cases htag : passTagOf cs with
    | none =>
      rw [withoutPassTag, splitPassTag_of_passTagOf_eq_none htag]
      exact .bare (passTagOf_eq_none_iff.1 htag)
    | some tag =>
      obtain ⟨front, rfl, hopen, hne, hclose⟩ := endsInTag_of_passTagOf htag
      obtain ⟨trail, htrail, hcore, hfront⟩ := exists_blanks_of_not_unclosed hopen
      rw [withoutPassTag, splitPassTag_append_bracket hne hclose hopen, hfront]
      exact .tagged (fun _ hc => Text.isBlank_last_trimEnd hc) hcore htrail hne hclose

end BuildRemarks.Kernel
