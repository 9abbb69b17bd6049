import BuildRemarks.Proofs.Record.Fragments

/-!
# Callees and callers in a message

A message is put together from left to right out of what the entries show. A callee waits for a
caller and a caller for a callee, and a later one takes the place of the one that waits; once both
are there they are shown as one token and neither waits any longer. What a message shows is said
here by positions: a token stands where a half meets a counterpart that no earlier token has used.
-/

namespace BuildRemarks.Record

open Yaml (Value)

/-- The halves of a token. -/
inductive Half where
  | callee
  | caller
  deriving DecidableEq

def Half.name : Half → String
  | callee => "Callee"
  | caller => "Caller"

def Half.other : Half → Half
  | callee => caller
  | caller => callee

/-- The token of a half and its counterpart. -/
def Half.token (h : Half) (text counterpart : String) : String :=
  match h with
  | callee => text ++ " -> " ++ counterpart
  | caller => counterpart ++ " -> " ++ text

theorem Half.other_other (h : Half) : h.other.other = h := by
  cases h <;> rfl

theorem Half.eq_or_eq_other (h half : Half) : h = half ∨ h = half.other := by
  cases h <;> cases half <;> decide

theorem Half.name_injective {h half : Half} (heq : h.name = half.name) : h = half := by
  cases h <;> cases half <;> first | rfl | exact absurd heq (by decide)

theorem Half.other_ne (h : Half) : h.other ≠ h := by
  cases h <;> decide

/-- What the entries show, in their order, whatever tags stand before an entry. -/
def shown (entries : List Value) : List (String × String) := (pairs entries).filterMap told?

/-! ### Positions -/

section Positions

variable (ps : List (String × String)) (token : Nat → Prop)

def IsHalf (h : Half) (i : Nat) : Prop := ∃ text, ps[i]? = some (h.name, text)

/-- No token stands at `j` or behind it and before `i`. -/
def FreeFrom (j i : Nat) : Prop := ∀ k, j ≤ k → k < i → ¬ token k

/-- The latest half `h` up to `i` stands at `j`, and no token has used it before `i`. -/
structure Latest (h : Half) (i j : Nat) : Prop where
  le : j ≤ i
  isHalf : IsHalf ps h j
  free : FreeFrom token j i
  last : ∀ k, j < k → k ≤ i → ¬ IsHalf ps h k

end Positions

/-! ### One pair more -/

namespace Draft

def slot (d : Draft) : Half → Option String
  | .callee => d.callee
  | .caller => d.caller

/-- Lets a half wait, in place of an earlier one. -/
def hold (d : Draft) (text : String) : Half → Draft
  | .callee => { d with callee := some text }
  | .caller => { d with caller := some text }

/-- At most one half waits. -/
def Settled (d : Draft) : Prop := d.callee = none ∨ d.caller = none

/-- Shows what a pair tells. -/
def tell (d : Draft) (p : String × String) : Draft := (d.add (some p.1) p.2).pair

theorem settled_pair (d : Draft) : d.pair.Settled := by
  rw [Draft.pair]
  split
  · exact Or.inl rfl
  · rename_i hnot
    cases hcallee : d.callee with
    | none => exact Or.inl hcallee
    | some callee =>
      cases hcaller : d.caller with
      | none => exact Or.inr hcaller
      | some caller => exact absurd hcaller (hnot callee caller hcallee)

theorem pair_of_settled {d : Draft} (h : d.Settled) : d.pair = d := by
  rw [Draft.pair]
  rcases h with h | h
  · rw [h]
  · rw [h]
    cases d.callee <;> rfl

theorem addPair_eq {d : Draft} (h : d.Settled) (pair : Value × Value) :
    d.addPair pair = ((told? pair).map d.tell).getD d := by
  obtain ⟨key, value⟩ := pair
  rw [told?_eq, Draft.addPair]
  cases scalarText? value with
  | none => cases key.text? <;> rfl
  | some text =>
    cases key.text? with
    | none => exact pair_of_settled h
    | some name => rfl

theorem foldl_addPair {d : Draft} (h : d.Settled) (es : List (Value × Value)) :
    es.foldl Draft.addPair d = (es.filterMap told?).foldl tell d := by
  induction es generalizing d with
  | nil => rfl
  | cons e es ih =>
    have hstep := addPair_eq h e
    rw [List.foldl_cons]
    cases he : told? e with
    | none =>
      rw [he] at hstep
      rw [List.filterMap_cons_none he, hstep]
      exact ih h
    | some p =>
      rw [he] at hstep
      rw [List.filterMap_cons_some he, List.foldl_cons, hstep]
      exact ih (settled_pair _)

/-- The text behind a pair that is no half. -/
def grow (cs : List Char) (p : String × String) : List Char :=
  if p.1 = "String" then cs ++ p.2.toList
  else if p.1 = "Type" then appendWord cs ("type: " ++ p.2).toList
  else cs

variable {d : Draft} {p : String × String} {half : Half}

theorem tell_of_no_half (h : d.Settled) (hp : ∀ half : Half, p.1 ≠ half.name) :
    d.tell p = { d with text := grow d.text p } := by
  obtain ⟨name, s⟩ := p
  have hadd : d.add (some name) s = { d with text := grow d.text (name, s) } := by
    by_cases hstring : name = "String"
    · rw [hstring]
      rfl
    · by_cases htype : name = "Type"
      · have hne : ¬ ("Type" : String) = "String" := by decide
        rw [htype, grow, if_neg hne, if_pos rfl, String.toList_append]
        rfl
      · have hother : name ∉ ["String", "Callee", "Caller", "Type"] := by
          simp only [List.mem_cons, List.not_mem_nil, or_false, not_or]
          exact ⟨hstring, hp .callee, hp .caller, htype⟩
        rw [grow, if_neg hstring, if_neg htype, add_of_other hother]
  have hsettled : Settled { d with text := grow d.text (name, s) } := h
  rw [tell, hadd, pair_of_settled hsettled]

theorem add_half (d : Draft) (half : Half) (s : String) :
    d.add (some half.name) s = d.hold s half := by
  cases half <;> rfl

theorem tell_half (h : d.slot half.other = none) (s : String) :
    d.tell (half.name, s) = d.hold s half := by
  have hsettled : (d.hold s half).Settled := by
    cases half
    · exact Or.inr h
    · exact Or.inl h
  rw [tell, add_half, pair_of_settled hsettled]

theorem tell_counterpart {counterpart : String} (h : d.slot half.other = some counterpart)
    (s : String) :
    d.tell (half.name, s) =
      { text := appendWord d.text (half.token s counterpart).toList } := by
  rw [tell, add_half]
  cases half
  · have hcaller : d.caller = some counterpart := h
    simp only [hold, Draft.pair, hcaller, Half.token, String.toList_append]
  · have hcallee : d.callee = some counterpart := h
    simp only [hold, Draft.pair, hcallee, Half.token, String.toList_append]

theorem slot_hold_self (d : Draft) (half : Half) (s : String) :
    (d.hold s half).slot half = some s := by
  cases half <;> rfl

theorem slot_hold_other (d : Draft) (half : Half) (s : String) :
    (d.hold s half).slot half.other = d.slot half.other := by
  cases half <;> rfl

theorem hold_hold (d : Draft) (half : Half) (s later : String) :
    (d.hold s half).hold later half = d.hold later half := by
  cases half <;> rfl

end Draft

/-! ### The run over the pairs -/

/-- The draft of a message before the pair at `i`. -/
def draftAt (start : List Char) (ps : List (String × String)) (i : Nat) : Draft :=
  (ps.take i).foldl Draft.tell { text := start }

/-- The pair at `i` is the counterpart of a half that waits. -/
def TokenAt (start : List Char) (ps : List (String × String)) (i : Nat) : Prop :=
  ∃ h : Half, IsHalf ps h i ∧ ∃ text, (draftAt start ps i).slot h.other = some text

section Run

variable {start : List Char} {ps : List (String × String)} {token : Nat → Prop}
  {half : Half} {i j : Nat} {d : Draft}

theorem draftAt_succ {p : String × String} (hp : ps[i]? = some p) :
    draftAt start ps (i + 1) = (draftAt start ps i).tell p := by
  rw [draftAt, List.take_add_one, hp, List.foldl_append]
  rfl

theorem draftAt_succ_of_none (hp : ps[i]? = none) :
    draftAt start ps (i + 1) = draftAt start ps i := by
  rw [draftAt, List.take_add_one, hp, Option.toList_none, List.append_nil, draftAt]

theorem settled_draftAt : ∀ i, (draftAt start ps i).Settled
  | 0 => Or.inl rfl
  | i + 1 => by
    cases hp : ps[i]? with
    | none =>
      rw [draftAt_succ_of_none hp]
      exact settled_draftAt i
    | some p =>
      rw [draftAt_succ hp]
      exact Draft.settled_pair _

theorem draftAt_length : draftAt start ps ps.length = ps.foldl Draft.tell { text := start } := by
  rw [draftAt, List.take_length]

theorem IsHalf.not_other (h : IsHalf ps half i) : ¬ IsHalf ps half.other i := by
  rintro ⟨text, hother⟩
  obtain ⟨s, hs⟩ := h
  rw [hs] at hother
  exact half.other_ne (Half.name_injective (congrArg Prod.fst (Option.some.inj hother)).symm)

theorem freeFrom_succ :
    FreeFrom token j (i + 1) ↔ FreeFrom token j i ∧ (j ≤ i → ¬ token i) := by
  constructor
  · intro h
    exact ⟨fun k hjk hk => h k hjk (by omega), fun hji => h i hji (by omega)⟩
  · rintro ⟨h, hi⟩ k hjk hk
    rcases Nat.lt_or_eq_of_le (Nat.le_of_lt_succ hk) with hlt | rfl
    · exact h k hjk hlt
    · exact hi hjk

theorem IsHalf.lt (h : IsHalf ps half j) (hj : j < i + 1)
    (hno : ¬ IsHalf ps half i) : j < i := by
  rcases Nat.lt_or_eq_of_le (Nat.le_of_lt_succ hj) with hlt | rfl
  · exact hlt
  · exact absurd h hno

/-! ### What a pair does -/

/-- What the pair at `i`, if there is one, makes of a draft: a half without counterpart waits, one
with a counterpart is shown with it, and any other pair grows the text. -/
inductive Step (ps : List (String × String)) (token : Nat → Prop) (i : Nat) (d : Draft) :
    Draft → Prop
  | wait {half : Half} {s : String} (pair : ps[i]? = some (half.name, s))
      (alone : d.slot half.other = none) (no_token : ¬ token i) : Step ps token i d (d.hold s half)
  | meet {half : Half} {s counterpart : String} (pair : ps[i]? = some (half.name, s))
      (waiting : d.slot half.other = some counterpart) (is_token : token i) :
      Step ps token i d { text := appendWord d.text (half.token s counterpart).toList }
  | grow {p : String × String} (pair : ps[i]? = some p)
      (no_half : ∀ half : Half, p.1 ≠ half.name) (no_token : ¬ token i) :
      Step ps token i d { d with text := Draft.grow d.text p }
  | stop (no_pair : ps[i]? = none) (no_token : ¬ token i) : Step ps token i d d

theorem isHalf_iff {p : String × String} (hp : ps[i]? = some p) :
    IsHalf ps half i ↔ p.1 = half.name := by
  constructor
  · rintro ⟨s, hs⟩
    rw [hp] at hs
    exact congrArg Prod.fst (Option.some.inj hs)
  · intro hname
    exact ⟨p.2, by rw [hp, ← hname]⟩

theorem not_isHalf (hp : ps[i]? = none) : ¬ IsHalf ps half i := by
  rintro ⟨s, hs⟩
  rw [hp] at hs
  cases hs

theorem step_draftAt (start : List Char) (ps : List (String × String)) (i : Nat) :
    Step ps (TokenAt start ps) i (draftAt start ps i) (draftAt start ps (i + 1)) := by
  cases hp : ps[i]? with
  | none =>
    have hno : ¬ TokenAt start ps i := fun ⟨_, hhalf, _⟩ => not_isHalf hp hhalf
    rw [draftAt_succ_of_none hp]
    exact .stop hp hno
  | some p =>
    rw [draftAt_succ hp]
    by_cases hhalf : ∃ half : Half, p.1 = half.name
    · obtain ⟨half, hname⟩ := hhalf
      have hp' : ps[i]? = some (half.name, p.2) := by rw [hp, ← hname]
      have heq : p = (half.name, p.2) := Prod.ext hname rfl
      rw [heq]
      cases hslot : (draftAt start ps i).slot half.other with
      | none =>
        rw [Draft.tell_half hslot]
        refine .wait hp' hslot ?_
        rintro ⟨h, hh, text, htext⟩
        have hsame : h = half := Half.name_injective (((isHalf_iff hp).1 hh).symm.trans hname)
        rw [hsame, hslot] at htext
        cases htext
      | some counterpart =>
        rw [Draft.tell_counterpart hslot]
        exact .meet hp' hslot ⟨half, ⟨p.2, hp'⟩, counterpart, hslot⟩
    · have hno : ∀ half : Half, p.1 ≠ half.name := fun half hname => hhalf ⟨half, hname⟩
      rw [Draft.tell_of_no_half (settled_draftAt i) hno]
      exact .grow hp hno fun ⟨half, hh, _⟩ => hno half ((isHalf_iff hp).1 hh)

/-! ### Which half waits -/

/-- The half that waits in a draft before `i` is the latest that no token has used, and none waits
if there is none. -/
structure Held (ps : List (String × String)) (token : Nat → Prop) (i : Nat) (d : Draft) :
    Prop where
  of_none : ∀ h : Half, d.slot h = none →
    ∀ j, j < i → IsHalf ps h j → ¬ FreeFrom token j i
  of_some : ∀ (h : Half) text, d.slot h = some text →
    ∃ j, j < i ∧ ps[j]? = some (h.name, text) ∧ FreeFrom token j i ∧
      ∀ k, j < k → k < i → ¬ IsHalf ps h k

theorem held_zero : Held ps token 0 { text := start } where
  of_none := by
    intro h _ j hj
    omega
  of_some := by
    intro h text hslot
    cases h <;> cases hslot

/-- A pair that is no half leaves the halves waiting. -/
theorem Held.pass {d' : Draft} (h : Held ps token i d) (htoken : ¬ token i)
    (hno : ∀ half, ¬ IsHalf ps half i) (hslot : ∀ half, d'.slot half = d.slot half) :
    Held ps token (i + 1) d' where
  of_none := by
    intro half hnone j hj hhalf hfree
    exact h.of_none half (hslot half ▸ hnone) j (hhalf.lt hj (hno half)) hhalf
      (freeFrom_succ.1 hfree).1
  of_some := by
    intro half text hsome
    obtain ⟨j, hj, hp, hfree, hlast⟩ := h.of_some half text (hslot half ▸ hsome)
    refine ⟨j, by omega, hp, freeFrom_succ.2 ⟨hfree, fun _ => htoken⟩, ?_⟩
    intro k hjk hk hhalf
    exact hlast k hjk (hhalf.lt hk (hno half)) hhalf

/-- A half without a counterpart waits in place of an earlier one. -/
theorem Held.wait (h : Held ps token i d) (htoken : ¬ token i) {s : String}
    (hp : ps[i]? = some (half.name, s)) (hother : d.slot half.other = none) :
    Held ps token (i + 1) (d.hold s half) where
  of_none := by
    intro h' hnone j hj hhalf hfree
    rcases h'.eq_or_eq_other half with rfl | rfl
    · rw [Draft.slot_hold_self] at hnone
      cases hnone
    · have hlt := hhalf.lt hj (IsHalf.not_other ⟨s, hp⟩)
      exact h.of_none _ hother j hlt hhalf (freeFrom_succ.1 hfree).1
  of_some := by
    intro h' text hsome
    rcases h'.eq_or_eq_other half with rfl | rfl
    · rw [Draft.slot_hold_self] at hsome
      cases hsome
      refine ⟨i, by omega, hp, fun k hk hlt => ?_, fun k hk hlt => by omega⟩
      have hik : k = i := by omega
      exact hik ▸ htoken
    · rw [Draft.slot_hold_other, hother] at hsome
      cases hsome

/-- Behind a token no half waits. -/
theorem held_of_token (htoken : token i) (text : List Char) :
    Held ps token (i + 1) { text } where
  of_none := by
    intro half _ j hj _ hfree
    exact hfree i (by omega) (by omega) htoken
  of_some := by
    intro half s hsome
    cases half <;> cases hsome

theorem Held.step {d' : Draft} (h : Held ps token i d) (hstep : Step ps token i d d') :
    Held ps token (i + 1) d' := by
  cases hstep with
  | wait pair alone no_token => exact h.wait no_token pair alone
  | meet pair waiting is_token => exact held_of_token is_token _
  | grow pair no_half no_token =>
    refine h.pass no_token (fun half hhalf => ?_) fun half => by cases half <;> rfl
    exact no_half half ((isHalf_iff pair).1 hhalf)
  | stop no_pair no_token =>
    exact h.pass no_token (fun half => not_isHalf no_pair) fun _ => rfl

theorem held_draftAt : ∀ i, Held ps (TokenAt start ps) i (draftAt start ps i)
  | 0 => held_zero
  | i + 1 => (held_draftAt i).step (step_draftAt start ps i)

theorem Held.exists_slot_iff (h : Held ps token i d) :
    (∃ text, d.slot half = some text) ↔
      ∃ j, j < i ∧ IsHalf ps half j ∧ FreeFrom token j i := by
  constructor
  · rintro ⟨text, hslot⟩
    obtain ⟨j, hj, hp, hfree, -⟩ := h.of_some half text hslot
    exact ⟨j, hj, ⟨text, hp⟩, hfree⟩
  · rintro ⟨j, hj, hhalf, hfree⟩
    refine Option.ne_none_iff_exists'.1 fun hnone => ?_
    exact h.of_none half hnone j hj hhalf hfree

/-! ### Tokens -/

theorem latest_self (h : IsHalf ps half i) : Latest ps token half i i where
  le := Nat.le_refl i
  isHalf := h
  free := fun k hik hki => by omega
  last := fun k hik hki => by omega

theorem Held.latest (h : Held ps token i d) {s : String} (hslot : d.slot half = some s)
    (hno : ¬ IsHalf ps half i) :
    ∃ j, Latest ps token half i j ∧ ps[j]? = some (half.name, s) := by
  obtain ⟨j, hj, hp, hfree, hlast⟩ := h.of_some half s hslot
  refine ⟨j, ⟨Nat.le_of_lt hj, ⟨s, hp⟩, hfree, fun k hjk hk hhalf => ?_⟩, hp⟩
  exact hlast k hjk (hhalf.lt (by omega) hno) hhalf

end Run

end BuildRemarks.Record
