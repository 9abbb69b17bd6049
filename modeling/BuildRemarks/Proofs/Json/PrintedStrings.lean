import Mathlib.Tactic.SplitIfs
import BuildRemarks.Json.Print
import BuildRemarks.Json.Strings

/-!
# Printed strings

What is printed for a character is the character or an escape of it. Hence every character of a
string is read back, and a printed string can be passed over as well.
-/

namespace BuildRemarks.Json

/-! ### Characters -/

/-- A text for a character within a string: an escape of one letter, one of four digits, or the
character. -/
inductive Escape (c : Char) : List Char → Prop
  | letter (l : Char) (hl : l ≠ 'u') (h : shortEscape? l = some c) : Escape c ['\\', l]
  | digits (a b d e : Char) (hlow : c.toNat < 0x20) (h : hexFour? a b d e = some c.toNat) :
      Escape c ['\\', 'u', a, b, d, e]
  | plain (hquote : c ≠ '"') (hslash : c ≠ '\\') (h : ¬ c.toNat < 0x20) : Escape c [c]

/-- The digits for a control character denote it. -/
theorem exists_fourHex {n : Nat} (h : n < 0x20) :
    ∃ a b c d, fourHex n = [a, b, c, d] ∧ hexFour? a b c d = some n := by
  have hall : ∀ n < 0x20,
      fourHex n = ['0', '0', Nat.digitChar (n / 16), Nat.digitChar (n % 16)] ∧
        hexFour? '0' '0' (Nat.digitChar (n / 16)) (Nat.digitChar (n % 16)) = some n := by
    decide
  exact ⟨'0', '0', _, _, hall n h⟩

theorem escape_printChar (c : Char) : Escape c (printChar c) := by
  rw [printChar]
  split_ifs with hquote hslash hline hreturn htab hback hfeed hlow
  · subst hquote
    exact .letter '"' (by decide) rfl
  · subst hslash
    exact .letter '\\' (by decide) rfl
  · subst hline
    exact .letter 'n' (by decide) rfl
  · subst hreturn
    exact .letter 'r' (by decide) rfl
  · subst htab
    exact .letter 't' (by decide) rfl
  · subst hback
    exact .letter 'b' (by decide) rfl
  · subst hfeed
    exact .letter 'f' (by decide) rfl
  · obtain ⟨a, b, d, e, hprint, hread⟩ := exists_fourHex hlow
    rw [hprint]
    exact .digits a b d e hlow hread
  · exact .plain hquote hslash hlow

namespace Escape

variable {c : Char} {text : List Char}

theorem readString_append (h : Escape c text) (cs : List Char) :
    readString (text ++ cs) = consContent c (readString cs) := by
  cases h with
  | letter l hl h =>
    rw [List.cons_append, List.singleton_append, readString, h]
    exact hl
  | digits a b d e hlow h =>
    have htrailing : isTrailing c.toNat = false := by
      simp only [isTrailing, Bool.and_eq_false_iff, decide_eq_false_iff_not]
      omega
    have hleading : isLeading c.toNat = false := by
      simp only [isLeading, Bool.and_eq_false_iff, decide_eq_false_iff_not]
      omega
    show readString ('\\' :: 'u' :: a :: b :: d :: e :: cs) = _
    rw [readString, h]
    simp only [htrailing, hleading, Bool.false_eq_true, if_false, Char.ofNat_toNat]
  | plain hquote hslash h =>
    rw [List.singleton_append, readString, if_neg h]
    · exact hquote
    · exact fun _ heq => absurd heq hslash
    · exact fun _ _ heq => absurd heq hslash
    · exact fun heq => absurd heq hslash

theorem passString_append (h : Escape c text) (cs : List Char) :
    passString (text ++ cs) = passString cs := by
  cases h with
  | letter l hl h =>
    rw [List.cons_append, List.singleton_append, passString, h]
    exact hl
  | digits a b d e hlow h =>
    show passString ('\\' :: 'u' :: a :: b :: d :: e :: cs) = _
    rw [passString, h]
  | plain hquote hslash h =>
    rw [List.singleton_append, passString, if_neg h]
    · exact hquote
    · exact fun _ heq => absurd heq hslash
    · exact fun _ _ heq => absurd heq hslash
    · exact fun heq => absurd heq hslash

end Escape

/-! ### Strings -/

/-- The text that is printed for the content of a string. -/
def escaped (cs : List Char) : List Char := cs.flatMap printChar

theorem escaped_cons (c : Char) (cs : List Char) :
    escaped (c :: cs) = printChar c ++ escaped cs := List.flatMap_cons

theorem readString_escaped (cs rest : List Char) :
    readString (escaped cs ++ '"' :: rest) = .ok (cs, rest) := by
  induction cs with
  | nil => exact readString_quote rest
  | cons c cs ih =>
    rw [escaped_cons, List.append_assoc, (escape_printChar c).readString_append, ih]
    rfl

theorem passString_escaped (cs rest : List Char) :
    passString (escaped cs ++ '"' :: rest) = .ok rest := by
  induction cs with
  | nil =>
    show passString ('"' :: rest) = _
    rw [passString]
  | cons c cs ih =>
    rw [escaped_cons, List.append_assoc, (escape_printChar c).passString_append, ih]

theorem toList_printString (s : String) :
    (printString s).toList = '"' :: (escaped s.toList ++ ['"']) := by
  rw [printString, String.toList_ofList, List.append_assoc]
  rfl

end BuildRemarks.Json
