import BuildRemarks.Text.Run
import BuildRemarks.Text.Word

/-!
# Searching a text

Texts are searched from the left. A recogniser `here` says what it finds at the
start of a text; the searches try it at one position after the other.
-/

namespace BuildRemarks.Text

/-- What follows `lead`, if the text starts with it. -/
def after? (lead : String) (cs : List Char) : Option (List Char) :=
  lead.toList.isPrefixOf? cs

theorem isPrefixOf?_eq_some_iff {lead cs rest : List Char} :
    lead.isPrefixOf? cs = some rest ↔ cs = lead ++ rest := by
  induction lead generalizing cs with
  | nil =>
    show some cs = some rest ↔ cs = rest
    rw [Option.some.injEq]
  | cons l lead ih =>
    cases cs with
    | nil =>
      show none = some rest ↔ [] = l :: (lead ++ rest)
      simp only [reduceCtorEq]
    | cons c cs =>
      show (if l == c then lead.isPrefixOf? cs else none) = some rest ↔
        c :: cs = l :: (lead ++ rest)
      by_cases hc : l = c
      · subst hc
        rw [if_pos (beq_self_eq_true l), ih, List.cons.injEq]
        exact ⟨fun h => ⟨rfl, h⟩, fun h => h.2⟩
      · rw [if_neg (fun h => hc (beq_iff_eq.1 h)), List.cons.injEq]
        exact ⟨fun h => absurd h (by simp), fun h => absurd h.1.symm hc⟩

theorem after?_eq_some_iff {lead : String} {cs rest : List Char} :
    after? lead cs = some rest ↔ cs = lead.toList ++ rest :=
  isPrefixOf?_eq_some_iff

def occursIn (word : List Char) : List Char → Bool
  | [] => word.isEmpty
  | c :: cs => word.isPrefixOf (c :: cs) || occursIn word cs

theorem occursIn_iff (word : List Char) (cs : List Char) :
    occursIn word cs = true ↔ word <:+: cs := by
  induction cs with
  | nil => simp [occursIn]
  | cons c cs ih => simp only [occursIn, Bool.or_eq_true, ih, List.isPrefixOf_iff_prefix,
      List.infix_cons_iff]

def holds (s word : String) : Bool := occursIn word.toList s.toList

def splitOnce? (sep : List Char) : List Char → Option (List Char × List Char)
  | [] => if sep.isEmpty then some ([], []) else none
  | c :: cs =>
    match sep.isPrefixOf? (c :: cs) with
    | some rest => some ([], rest)
    | none => (splitOnce? sep cs).map fun p => (c :: p.1, p.2)

theorem append_of_splitOnce? {sep cs front back : List Char}
    (h : splitOnce? sep cs = some (front, back)) : cs = front ++ sep ++ back := by
  induction cs generalizing front with
  | nil =>
    rw [splitOnce?] at h
    split at h
    · rename_i hs
      cases h
      rw [List.isEmpty_iff.1 hs]
      rfl
    · exact absurd h (by simp)
  | cons c cs ih =>
    rw [splitOnce?] at h
    split at h
    · rename_i rest hrest
      cases h
      exact isPrefixOf?_eq_some_iff.1 hrest
    · obtain ⟨p, hp, he⟩ := Option.map_eq_some_iff.1 h
      cases he
      exact congrArg (c :: ·) (ih hp)

def splitLast? (sep : Char) : List Char → Option (List Char × List Char)
  | [] => none
  | c :: cs =>
    match splitLast? sep cs with
    | some (front, back) => some (c :: front, back)
    | none => if c = sep then some ([], cs) else none

theorem splitLast?_eq_none_iff {sep : Char} {cs : List Char} :
    splitLast? sep cs = none ↔ sep ∉ cs := by
  induction cs with
  | nil => simp only [splitLast?, List.not_mem_nil, not_false_eq_true]
  | cons c cs ih =>
    rw [splitLast?, List.mem_cons, not_or, ← ih]
    split
    · rename_i hs
      simp only [reduceCtorEq, hs, and_false]
    · rename_i hs
      by_cases hc : c = sep
      · simp only [hc, if_true, reduceCtorEq, not_true_eq_false, false_and]
      · simp only [hc, if_false, hs, and_true, true_iff]
        exact fun e => hc e.symm

theorem splitLast?_eq_some_iff {sep : Char} {cs front back : List Char} :
    splitLast? sep cs = some (front, back) ↔ cs = front ++ sep :: back ∧ sep ∉ back := by
  induction cs generalizing front back with
  | nil =>
    refine ⟨fun h => absurd h (by simp [splitLast?]), fun h => absurd h.1 (by simp)⟩
  | cons c cs ih =>
    rw [splitLast?]
    split
    · rename_i f b hs
      have hcs := ih.1 hs
      constructor
      · intro h
        cases h
        exact ⟨congrArg (c :: ·) hcs.1, hcs.2⟩
      · rintro ⟨he, hn⟩
        cases front with
        | nil =>
          rw [List.nil_append, List.cons.injEq] at he
          exact absurd (he.2 ▸ hcs.1 ▸ List.mem_append_right f List.mem_cons_self) hn
        | cons d front =>
          rw [List.cons_append, List.cons.injEq] at he
          have hf := ih.2 ⟨he.2, hn⟩
          rw [hs] at hf
          cases hf
          rw [he.1]
    · rename_i hs
      have hno := splitLast?_eq_none_iff.1 hs
      split
      · rename_i hc
        rw [Option.some.injEq, Prod.mk.injEq]
        constructor
        · rintro ⟨rfl, rfl⟩
          exact ⟨hc ▸ rfl, hno⟩
        · rintro ⟨he, hn⟩
          cases front with
          | nil =>
            rw [List.nil_append, List.cons.injEq] at he
            exact ⟨rfl, he.2⟩
          | cons d front =>
            rw [List.cons_append, List.cons.injEq] at he
            exact absurd (he.2 ▸ List.mem_append_right front List.mem_cons_self) hno
      · rename_i hc
        refine ⟨fun h => absurd h (by simp), fun ⟨he, hn⟩ => ?_⟩
        cases front with
        | nil =>
          rw [List.nil_append, List.cons.injEq] at he
          exact absurd he.1 hc
        | cons d front =>
          rw [List.cons_append, List.cons.injEq] at he
          exact absurd (he.2 ▸ List.mem_append_right front List.mem_cons_self) hno

def splitAll (sep : Char) : List Char → List (List Char)
  | [] => [[]]
  | c :: cs =>
    if c = sep then [] :: splitAll sep cs
    else match splitAll sep cs with
      | [] => [[c]]
      | part :: parts => (c :: part) :: parts

/-- What `here` finds at the first position where it finds something. -/
def firstMatch {α : Type} (here : List Char → Option α) : List Char → Option α
  | [] => here []
  | c :: cs =>
    match here (c :: cs) with
    | some a => some a
    | none => firstMatch here cs

/-- What `here` finds at the first position where it finds something and which has no
word character before it; `inWord` says whether one stands before the text. -/
def firstMatchAtWord {α : Type} (here : List Char → Option α) : Bool → List Char → Option α
  | inWord, [] => if inWord then none else here []
  | inWord, c :: cs =>
    match if inWord then none else here (c :: cs) with
    | some a => some a
    | none => firstMatchAtWord here (isWordChar c) cs

end BuildRemarks.Text
