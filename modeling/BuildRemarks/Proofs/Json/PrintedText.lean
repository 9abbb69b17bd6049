import BuildRemarks.Proofs.Json.PrintedNumbers
import BuildRemarks.Proofs.Json.PrintedStrings
import BuildRemarks.Proofs.Json.Schemas

/-!
# Printed values

The text of a value without floating-point numbers is read back as the value, with whatever may
stand behind a value left over. The steps of the reader are bounded by the length of the text,
and the brackets it may open by what the depth of the value leaves below the limit.
-/

namespace BuildRemarks.Json

/-! ### Values without parts -/

theorem skipSpaces_of_visible {c : Char} (h : isSpace c = false) (cs : List Char) :
    skipSpaces (c :: cs) = c :: cs :=
  List.dropWhile_cons_of_neg (by simp [h])

theorem value_null (fuel level : Nat) (rest : List Char) :
    value (fuel + 1) level (Value.null.print.toList ++ rest) = (.null, some rest) := by
  show value (fuel + 1) level ('n' :: 'u' :: 'l' :: 'l' :: rest) = _
  rw [value, skipSpaces_of_visible rfl]
  rfl

theorem value_bool (fuel level : Nat) (b : Bool) (rest : List Char) :
    value (fuel + 1) level ((Value.bool b).print.toList ++ rest) = (.bool b, some rest) := by
  cases b with
  | false =>
    show value (fuel + 1) level ('f' :: 'a' :: 'l' :: 's' :: 'e' :: rest) = _
    rw [value, skipSpaces_of_visible rfl]
    rfl
  | true =>
    show value (fuel + 1) level ('t' :: 'r' :: 'u' :: 'e' :: rest) = _
    rw [value, skipSpaces_of_visible rfl]
    rfl

theorem value_string (fuel level : Nat) (s : String) (rest : List Char) :
    value (fuel + 1) level ((printString s).toList ++ rest) = (.string s, some rest) := by
  rw [toList_printString, List.cons_append, List.append_assoc, List.singleton_append, value,
    skipSpaces_of_visible rfl]
  simp only [stringPiece, readString_escaped, String.ofList_toList]

theorem ne_of_sign {c d : Char} (h : c = '-' ∨ c.isDigit = true) (hsign : d ≠ '-')
    (hdigit : d.isDigit = false) : c ≠ d := by
  rintro rfl
  rcases h with h | h
  · exact hsign h
  · rw [hdigit] at h
    exact absurd h (by decide)

theorem isSpace_of_sign {c : Char} (h : c = '-' ∨ c.isDigit = true) : isSpace c = false := by
  have hblank := ne_of_sign h (d := ' ') (by decide) rfl
  have hline := ne_of_sign h (d := '\n') (by decide) rfl
  have htab := ne_of_sign h (d := '\t') (by decide) rfl
  have hreturn := ne_of_sign h (d := '\r') (by decide) rfl
  simp only [isSpace, Bool.or_eq_false_iff, beq_eq_false_iff_ne]
  exact ⟨⟨⟨hblank, hline⟩, htab⟩, hreturn⟩

/-- A sign or a digit opens a number. -/
theorem value_of_sign (fuel level : Nat) {c : Char} (cs : List Char)
    (h : c = '-' ∨ c.isDigit = true) :
    value (fuel + 1) level (c :: cs) = numberPiece (c :: cs) := by
  rw [value, skipSpaces_of_visible (isSpace_of_sign h)]
  -- every other branch begins with a character of its own
  split
  · rename_i heq
    exact absurd heq (List.cons_ne_nil c cs)
  · rename_i heq
    exact absurd (List.cons.inj heq).1 (ne_of_sign h (by decide) rfl)
  · rename_i heq
    exact absurd (List.cons.inj heq).1 (ne_of_sign h (by decide) rfl)
  · rename_i heq
    exact absurd (List.cons.inj heq).1 (ne_of_sign h (by decide) rfl)
  · rename_i heq
    exact absurd (List.cons.inj heq).1 (ne_of_sign h (by decide) rfl)
  · rename_i heq
    exact absurd (List.cons.inj heq).1 (ne_of_sign h (by decide) rfl)
  · rename_i heq
    exact absurd (List.cons.inj heq).1 (ne_of_sign h (by decide) rfl)
  · rename_i heq
    obtain ⟨rfl, rfl⟩ := List.cons.inj heq
    rw [if_pos h]

theorem exists_cons_signedNumeral (k : Int) :
    ∃ c cs, signedNumeral k = c :: cs ∧ (c = '-' ∨ c.isDigit = true) := by
  by_cases hk : k < 0
  · exact ⟨'-', _, if_pos hk, Or.inl rfl⟩
  · obtain ⟨d, ds, hdigits, hdigit⟩ := Text.exists_cons_numeral k.natAbs
    exact ⟨d, ds, (if_neg hk).trans hdigits, Or.inr hdigit⟩

theorem value_integer (fuel level : Nat) (i : WordInt) {rest : List Char} (h : Ended rest) :
    value (fuel + 1) level ((printNumber (.integer i)).toList ++ rest) =
      (.number (.integer i), some rest) := by
  obtain ⟨c, cs, hnumeral, hsign⟩ := exists_cons_signedNumeral i.val
  have hpiece := numberPiece_signedNumeral i h
  rw [toList_printNumber]
  rw [hnumeral, List.cons_append] at hpiece ⊢
  rw [value_of_sign fuel level (cs ++ rest) hsign, hpiece]

/-! ### Texts of arrays and objects -/

namespace Value

theorem toList_print_array (vs : List Value) :
    (array vs).print.toList = '[' :: ((printElements vs).toList ++ [']']) := by
  rw [print, String.toList_append, String.toList_append, List.append_assoc]
  rfl

theorem toList_print_object (ms : List (String × Value)) :
    (object ms).print.toList = '\x7b' :: ((printMembers ms).toList ++ ['\x7d']) := by
  rw [print, String.toList_append, String.toList_append, List.append_assoc]
  rfl

theorem toList_printElements_cons (v w : Value) (vs : List Value) :
    (printElements (v :: w :: vs)).toList =
      v.print.toList ++ ',' :: (printElements (w :: vs)).toList := by
  rw [printElements, String.toList_append, String.toList_append, List.append_assoc]
  · rfl
  · exact List.cons_ne_nil w vs

theorem toList_printMembers_singleton (name : String) (v : Value) :
    (printMembers [(name, v)]).toList = (printString name).toList ++ ':' :: v.print.toList := by
  rw [printMembers, String.toList_append, String.toList_append, List.append_assoc]
  rfl

theorem toList_printMembers_cons (name : String) (v : Value) (m : String × Value)
    (ms : List (String × Value)) :
    (printMembers ((name, v) :: m :: ms)).toList =
      (printString name).toList ++ ':' :: (v.print.toList ++
        ',' :: (printMembers (m :: ms)).toList) := by
  rw [printMembers]
  · simp only [String.toList_append, List.append_assoc]
    rfl
  · exact List.cons_ne_nil m ms

end Value

/-! ### What the reader makes of them -/

/-- The text begins neither with a space nor like the end of an array. -/
def OpensValue (cs : List Char) : Prop :=
  ∃ c rest, cs = c :: rest ∧ isSpace c = false ∧ c ≠ ']'

/-- The text of the value is read back where its depth is in reach of the limit. -/
structure ReadBack (n : Nat) (v : Value) : Prop where
  opens : OpensValue v.print.toList
  value_eq : ∀ fuel level rest, v.print.toList.length ≤ fuel → n + level ≤ depthLimit →
    Ended rest → value fuel level (v.print.toList ++ rest) = (.ofValue v, some rest)

theorem ended_cons {c : Char} (h : c = ',' ∨ c = ']' ∨ c = '\x7d') (rest : List Char) :
    Ended (c :: rest) :=
  fun _ hd => Option.some.inj hd ▸ h

theorem ReadBack.opens_printElements {n : Nat} {v : Value} (h : ReadBack n v) (vs : List Value) :
    OpensValue (Value.printElements (v :: vs)).toList := by
  obtain ⟨c, cs, hprint, hopen⟩ := h.opens
  cases vs with
  | nil => exact ⟨c, cs, hprint, hopen⟩
  | cons w vs =>
    refine ⟨c, cs ++ ',' :: (Value.printElements (w :: vs)).toList, ?_, hopen⟩
    rw [Value.toList_printElements_cons, hprint, List.cons_append]

/-- Each step takes one element off the text, by induction on the elements. A bound above the
length of the text leaves one for every element and for what it holds. -/
theorem elements_printElements {n : Nat} {v : Value} {vs : List Value}
    (h : ∀ w ∈ v :: vs, ReadBack n w) (fuel level : Nat) (rest : List Char)
    (hfuel : (Value.printElements (v :: vs)).toList.length < fuel)
    (hlevel : n + level ≤ depthLimit) :
    elements fuel level ((Value.printElements (v :: vs)).toList ++ ']' :: rest) =
      (Source.ofValues (v :: vs), .closed, some rest) := by
  have hv := h v List.mem_cons_self
  induction vs generalizing v fuel with
  | nil =>
    obtain ⟨fuel, rfl⟩ := Nat.exists_eq_add_one.2 (Nat.zero_lt_of_lt hfuel)
    rw [Value.printElements] at hfuel ⊢
    have hfirst := hv.value_eq fuel level _ (Nat.le_of_lt_succ hfuel) hlevel
      (ended_cons (Or.inr (Or.inl rfl)) rest)
    rw [elements, hfirst]
    rfl
  | cons w vs ih =>
    obtain ⟨fuel, rfl⟩ := Nat.exists_eq_add_one.2 (Nat.zero_lt_of_lt hfuel)
    have hw := h w (List.mem_cons_of_mem v List.mem_cons_self)
    rw [Value.toList_printElements_cons, List.length_append, List.length_cons] at hfuel
    have hfirst := hv.value_eq fuel level _ (by omega) hlevel
      (ended_cons (Or.inl rfl) ((Value.printElements (w :: vs)).toList ++ ']' :: rest))
    have hrest := ih (fun u hu => h u (List.mem_cons_of_mem v hu)) fuel (by omega) hw
    obtain ⟨c, cs, hopen, hvisible, hbracket⟩ := hw.opens_printElements vs
    rw [hopen] at hfirst hrest
    -- behind the comma the next element begins, and nothing of it is skipped
    rw [Value.toList_printElements_cons, hopen, List.append_assoc, List.cons_append, elements,
      hfirst]
    simp only [skipSpaces_of_visible (c := ',') rfl, List.cons_append,
      skipSpaces_of_visible hvisible]
    split
    · rename_i heq
      exact absurd (List.cons.inj heq).1 hbracket
    · rw [← List.cons_append, hrest]
      rfl

/-- Behind the last member stands the closing brace. -/
theorem members_last {fuel level : Nat} {text rest : List Char} {s : Source} (name : String)
    (h : value fuel level text = (s, some ('\x7d' :: rest))) :
    members (fuel + 1) level ((printString name).toList ++ ':' :: text) =
      ([(.ok name, s)], .closed, some rest) := by
  rw [toList_printString, List.cons_append, List.append_assoc, List.singleton_append, members,
    skipSpaces_of_visible rfl]
  simp only [readString_escaped, passString_escaped, Except.map, String.ofList_toList,
    skipSpaces_of_visible (c := ':') rfl, h, skipSpaces_of_visible (c := '\x7d') rfl]

/-- Behind a comma the members go on with the name of the next one. -/
theorem members_cons {fuel level : Nat} {text more : List Char} {s : Source} (name : String)
    (h : value fuel level text = (s, some (',' :: '"' :: more))) :
    members (fuel + 1) level ((printString name).toList ++ ':' :: text) =
      ((.ok name, s) :: (members fuel level ('"' :: more)).1,
        (members fuel level ('"' :: more)).2) := by
  rw [toList_printString, List.cons_append, List.append_assoc, List.singleton_append, members,
    skipSpaces_of_visible rfl]
  simp only [readString_escaped, passString_escaped, Except.map, String.ofList_toList,
    skipSpaces_of_visible (c := ':') rfl, h, skipSpaces_of_visible (c := ',') rfl,
    skipSpaces_of_visible (c := '"') rfl]
  rfl

theorem exists_toList_printMembers (m : String × Value) (ms : List (String × Value)) :
    ∃ more, (Value.printMembers (m :: ms)).toList = '"' :: more := by
  obtain ⟨name, v⟩ := m
  cases ms with
  | nil =>
    rw [Value.toList_printMembers_singleton, toList_printString]
    exact ⟨_, rfl⟩
  | cons m ms =>
    rw [Value.toList_printMembers_cons, toList_printString]
    exact ⟨_, rfl⟩

theorem members_printMembers {n : Nat} {m : String × Value} {ms : List (String × Value)}
    (h : ∀ p ∈ m :: ms, ReadBack n p.2) (fuel level : Nat) (rest : List Char)
    (hfuel : (Value.printMembers (m :: ms)).toList.length < fuel)
    (hlevel : n + level ≤ depthLimit) :
    members fuel level ((Value.printMembers (m :: ms)).toList ++ '\x7d' :: rest) =
      (Source.ofMembers (m :: ms), .closed, some rest) := by
  obtain ⟨name, v⟩ := m
  have hv : ReadBack n v := h (name, v) List.mem_cons_self
  induction ms generalizing name v fuel with
  | nil =>
    obtain ⟨fuel, rfl⟩ := Nat.exists_eq_add_one.2 (Nat.zero_lt_of_lt hfuel)
    rw [Value.toList_printMembers_singleton, List.length_append, List.length_cons] at hfuel
    have hfirst := hv.value_eq fuel level _ (by omega) hlevel
      (ended_cons (Or.inr (Or.inr rfl)) rest)
    rw [Value.toList_printMembers_singleton, List.append_assoc, List.cons_append,
      members_last name hfirst]
    rfl
  | cons m ms ih =>
    obtain ⟨fuel, rfl⟩ := Nat.exists_eq_add_one.2 (Nat.zero_lt_of_lt hfuel)
    obtain ⟨name', w⟩ := m
    have hw : ReadBack n w := h (name', w) (List.mem_cons_of_mem (name, v) List.mem_cons_self)
    simp only [Value.toList_printMembers_cons, List.length_append, List.length_cons] at hfuel
    have hfirst := hv.value_eq fuel level _ (by omega) hlevel
      (ended_cons (Or.inl rfl)
        ((Value.printMembers ((name', w) :: ms)).toList ++ '\x7d' :: rest))
    have hrest := ih fuel name' w
      (fun p hp => h p (List.mem_cons_of_mem (name, v) hp)) (by omega) hw
    obtain ⟨more, hmore⟩ := exists_toList_printMembers (name', w) ms
    rw [hmore, List.cons_append] at hfirst hrest
    rw [Value.toList_printMembers_cons, hmore, List.append_assoc, List.cons_append,
      List.append_assoc, List.cons_append, List.cons_append, members_cons name hfirst, hrest]
    rfl

/-! ### Whole values -/

theorem readBack_array {n : Nat} {vs : List Value} (h : ∀ v ∈ vs, ReadBack n v) :
    ReadBack (n + 1) (.array vs) := by
  refine ⟨⟨'[', _, Value.toList_print_array vs, rfl, by decide⟩, ?_⟩
  intro fuel level rest hfuel hlevel _
  rw [Value.toList_print_array, List.length_cons, List.length_append,
    List.length_singleton] at hfuel
  obtain ⟨fuel, rfl⟩ := Nat.exists_eq_add_one.2 (show 0 < fuel by omega)
  have hshallow : level < depthLimit := by omega
  rw [Value.toList_print_array, List.cons_append, List.append_assoc, List.singleton_append, value,
    skipSpaces_of_visible rfl]
  cases vs with
  | nil =>
    show (atLevel level (.array [] .closed), some rest) = _
    rw [atLevel, if_pos hshallow]
    rfl
  | cons v vs =>
    have hitems := elements_printElements h fuel (level + 1) rest (by omega) (by omega)
    obtain ⟨c, cs, hopen, hvisible, hbracket⟩ := (h v List.mem_cons_self).opens_printElements vs
    rw [hopen, List.cons_append] at hitems ⊢
    simp only [skipSpaces_of_visible hvisible]
    split
    · rename_i heq
      exact absurd heq (List.cons_ne_nil _ _)
    · rename_i heq
      exact absurd (List.cons.inj heq).1 hbracket
    · rw [hitems, atLevel, if_pos hshallow]
      rfl

theorem readBack_object {n : Nat} {ms : List (String × Value)} (h : ∀ m ∈ ms, ReadBack n m.2) :
    ReadBack (n + 1) (.object ms) := by
  refine ⟨⟨'\x7b', _, Value.toList_print_object ms, rfl, by decide⟩, ?_⟩
  intro fuel level rest hfuel hlevel _
  rw [Value.toList_print_object, List.length_cons, List.length_append,
    List.length_singleton] at hfuel
  obtain ⟨fuel, rfl⟩ := Nat.exists_eq_add_one.2 (show 0 < fuel by omega)
  have hshallow : level < depthLimit := by omega
  rw [Value.toList_print_object, List.cons_append, List.append_assoc, List.singleton_append, value,
    skipSpaces_of_visible rfl]
  cases ms with
  | nil =>
    show (atLevel level (.object [] .closed), some rest) = _
    rw [atLevel, if_pos hshallow]
    rfl
  | cons m ms =>
    have hitems := members_printMembers h fuel (level + 1) rest (by omega) (by omega)
    obtain ⟨more, hmore⟩ := exists_toList_printMembers m ms
    rw [hmore, List.cons_append] at hitems ⊢
    simp only [skipSpaces_of_visible (c := '"') rfl]
    split
    · rename_i heq
      exact absurd heq (List.cons_ne_nil _ _)
    · rename_i heq
      exact absurd (List.cons.inj heq).1 (by decide)
    · rw [hitems, atLevel, if_pos hshallow]
      rfl

/-- For a value without parts one step is enough. -/
theorem readBack_of_step {n : Nat} {v : Value}
    (hopen : OpensValue v.print.toList)
    (h : ∀ fuel level rest, Ended rest →
      value (fuel + 1) level (v.print.toList ++ rest) = (.ofValue v, some rest)) :
    ReadBack n v := by
  refine ⟨hopen, ?_⟩
  intro fuel level rest hfuel _ hended
  obtain ⟨c, cs, hprint, -⟩ := hopen
  rw [hprint, List.length_cons] at hfuel
  obtain ⟨fuel, rfl⟩ := Nat.exists_eq_add_one.2 (show 0 < fuel by omega)
  exact h fuel level rest hended

theorem readBack_of_fits {n : Nat} {v : Value} (h : Fits n v) : ReadBack n v := by
  induction h with
  | null =>
    exact readBack_of_step ⟨'n', _, rfl, rfl, by decide⟩ fun f l rest _ => value_null f l rest
  | bool b =>
    have hopen : OpensValue (Value.bool b).print.toList := by
      cases b with
      | false => exact ⟨'f', _, rfl, rfl, by decide⟩
      | true => exact ⟨'t', _, rfl, rfl, by decide⟩
    exact readBack_of_step hopen fun f l rest _ => value_bool f l b rest
  | integer i =>
    obtain ⟨c, cs, hnumeral, hsign⟩ := exists_cons_signedNumeral i.val
    have hprint : (Value.number (.integer i)).print.toList = c :: cs :=
      (toList_printNumber i).trans hnumeral
    exact readBack_of_step
      ⟨c, cs, hprint, isSpace_of_sign hsign, ne_of_sign hsign (by decide) rfl⟩
      fun f l rest hended => value_integer f l i hended
  | string s =>
    exact readBack_of_step ⟨'"', _, toList_printString s, rfl, by decide⟩ fun f l rest _ =>
      value_string f l s rest
  | array _ ih => exact readBack_array ih
  | object _ ih => exact readBack_object ih

/-- A text that holds nothing but a value is read like the value. -/
theorem Source.ofText_print {n : Nat} {v : Value} (h : Fits n v) (hn : n < depthLimit) :
    Source.ofText v.print.toList = (.ofValue v, some []) := by
  have hvalue := (readBack_of_fits h).value_eq (2 * v.print.toList.length + 2) 1 [] (by omega) hn
    (fun _ hc => nomatch hc)
  rw [List.append_nil] at hvalue
  exact hvalue

theorem Represents.text_print {α : Type} {read : Reader α} {n : Nat} {v : Value} {a : α}
    (h : Represents read n v a) (hn : n < depthLimit) : Reader.text read v.print = .ok a := by
  rw [Reader.text, Source.ofText_print h.fits hn]
  simp only [bind, Except.bind, h.read_eq]
  rfl

end BuildRemarks.Json
