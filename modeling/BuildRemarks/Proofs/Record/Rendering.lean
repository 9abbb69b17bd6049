import BuildRemarks.Proofs.Record.Pairing
import Mathlib.Data.List.InsertIdx

/-!
# What a message shows

A message is its start and what the entries show at one position after the other: texts, types and
tokens, each token behind one space unless a blank stands there. A half is in one token at most,
and one that is in none can be left out of the entries without a change of the message.
-/

namespace BuildRemarks.Record

open Yaml (Value)

def EndsInBlank (cs : List Char) : Prop := ∃ front c, cs = front ++ [c] ∧ Text.isBlank c = true

/-- A word goes behind a text, after one space unless the text ends in a blank. -/
structure Spaced (before word after : List Char) : Prop where
  of_blank : EndsInBlank before → after = before ++ word
  of_not_blank : ¬ EndsInBlank before → after = before ++ ' ' :: word

theorem endsBlank_iff (cs : List Char) : endsBlank cs = true ↔ EndsInBlank cs := by
  rw [endsBlank, EndsInBlank]
  rcases List.eq_nil_or_concat cs with rfl | ⟨front, c, rfl⟩
  · simp
  · rw [List.concat_eq_append, List.getLast?_concat, Option.map_some, Option.getD_some]
    constructor
    · intro hc
      exact ⟨front, c, rfl, hc⟩
    · rintro ⟨front', c', heq, hc⟩
      obtain ⟨-, hlast⟩ := List.append_inj' heq rfl
      rw [List.singleton_inj.1 hlast]
      exact hc

theorem spaced_appendWord (cs word : List Char) : Spaced cs word (appendWord cs word) where
  of_blank := by
    intro h
    rw [appendWord, if_pos ((endsBlank_iff cs).2 h)]
  of_not_blank := by
    intro h
    rw [appendWord, if_neg fun hblank => h ((endsBlank_iff cs).1 hblank)]

/-- The text before each position, where `token` are the positions at which a callee is shown
with its caller. -/
structure Written (pass name : String) (ps : List (String × String)) (token : Nat → Prop)
    (text : Nat → List Char) : Prop where
  token_iff : ∀ i, token i ↔
    ∃ h : Half, IsHalf ps h i ∧ ∃ j, j < i ∧ IsHalf ps h.other j ∧ FreeFrom token j i
  start : text 0 = (pass ++ ": " ++ name).toList
  string : ∀ i s, ps[i]? = some ("String", s) → text (i + 1) = text i ++ s.toList
  type : ∀ i s, ps[i]? = some ("Type", s) →
    Spaced (text i) ("type: " ++ s).toList (text (i + 1))
  pair : ∀ i, token i → ∃ j k callee caller,
    (Latest ps token .callee i j ∧ ps[j]? = some ("Callee", callee)) ∧
    (Latest ps token .caller i k ∧ ps[k]? = some ("Caller", caller)) ∧
    Spaced (text i) (callee ++ " -> " ++ caller).toList (text (i + 1))
  silent : ∀ i p, ps[i]? = some p → p.1 ≠ "String" → p.1 ≠ "Type" → ¬ token i →
    text (i + 1) = text i

section Run

variable {start : List Char} {ps : List (String × String)} {token : Nat → Prop}
  {half : Half} {i j : Nat} {d : Draft}

/-! ### The text -/

theorem Step.pair_of_token {d' : Draft} (hstep : Step ps token i d d') (h : Held ps token i d)
    (htoken : token i) : ∃ j k callee caller,
      (Latest ps token .callee i j ∧ ps[j]? = some ("Callee", callee)) ∧
      (Latest ps token .caller i k ∧ ps[k]? = some ("Caller", caller)) ∧
      Spaced d.text (callee ++ " -> " ++ caller).toList d'.text := by
  cases hstep with
  | meet pair waiting is_token =>
    rename_i half s counterpart
    have hself : IsHalf ps half i := ⟨s, pair⟩
    obtain ⟨k, hk, hpk⟩ := h.latest waiting hself.not_other
    cases half with
    | callee =>
      exact ⟨i, k, s, counterpart, ⟨latest_self hself, pair⟩, ⟨hk, hpk⟩,
        spaced_appendWord d.text _⟩
    | caller =>
      exact ⟨k, i, counterpart, s, ⟨hk, hpk⟩, ⟨latest_self hself, pair⟩,
        spaced_appendWord d.text _⟩
  | wait pair alone no_token => exact absurd htoken no_token
  | grow pair no_half no_token => exact absurd htoken no_token
  | stop no_pair no_token => exact absurd htoken no_token

theorem Step.text_of_no_half {d' : Draft} (hstep : Step ps token i d d')
    {p : String × String} (hp : ps[i]? = some p) (hno : ∀ half : Half, p.1 ≠ half.name) :
    d'.text = Draft.grow d.text p := by
  cases hstep with
  | wait pair alone no_token => exact absurd ((isHalf_iff hp).1 ⟨_, pair⟩) (hno _)
  | meet pair waiting is_token => exact absurd ((isHalf_iff hp).1 ⟨_, pair⟩) (hno _)
  | grow pair no_half no_token =>
    rw [hp, Option.some.injEq] at pair
    rw [pair]
  | stop no_pair no_token =>
    rw [hp] at no_pair
    cases no_pair

theorem Step.text_of_silent {d' : Draft} (hstep : Step ps token i d d')
    {p : String × String} (hp : ps[i]? = some p) (hstring : p.1 ≠ "String")
    (htype : p.1 ≠ "Type") (htoken : ¬ token i) : d'.text = d.text := by
  cases hstep with
  | wait pair alone no_token =>
    rename_i half s
    cases half <;> rfl
  | meet pair waiting is_token => exact absurd is_token htoken
  | grow pair no_half no_token =>
    rw [hp, Option.some.injEq] at pair
    show Draft.grow d.text _ = d.text
    rw [← pair, Draft.grow, if_neg hstring, if_neg htype]
  | stop no_pair no_token => rfl

theorem written_draftAt (pass name : String) (ps : List (String × String)) :
    Written pass name ps (TokenAt (messageStart pass name) ps)
      fun i => (draftAt (messageStart pass name) ps i).text where
  token_iff := by
    intro i
    have hheld : Held ps (TokenAt (messageStart pass name) ps) i
        (draftAt (messageStart pass name) ps i) := held_draftAt i
    have hwaits (h : Half) :
        (∃ s, (draftAt (messageStart pass name) ps i).slot h.other = some s) ↔
          ∃ j, j < i ∧ IsHalf ps h.other j ∧
            FreeFrom (TokenAt (messageStart pass name) ps) j i :=
      hheld.exists_slot_iff
    show TokenAt (messageStart pass name) ps i ↔ _
    simp only [TokenAt, hwaits]
  start := by
    show messageStart pass name = _
    simp only [messageStart, String.toList_append]
  string := by
    intro i s hp
    have hno : ∀ half : Half, "String" ≠ half.name := by
      intro half
      cases half <;> decide
    exact (step_draftAt (messageStart pass name) ps i).text_of_no_half hp hno
  type := by
    intro i s hp
    have hno : ∀ half : Half, "Type" ≠ half.name := by
      intro half
      cases half <;> decide
    have htext := (step_draftAt (messageStart pass name) ps i).text_of_no_half hp hno
    show Spaced _ _ (draftAt (messageStart pass name) ps (i + 1)).text
    rw [htext]
    exact spaced_appendWord _ _
  pair := by
    intro i htoken
    exact (step_draftAt (messageStart pass name) ps i).pair_of_token (held_draftAt i) htoken
  silent := by
    intro i p hp hstring htype htoken
    exact (step_draftAt (messageStart pass name) ps i).text_of_silent hp hstring htype htoken

/-! ### Halves that no token uses -/

/-- The half at `j` still waits before `i`, and the draft `e` is without it but otherwise the
same as `d`. -/
structure StillWaits (ps : List (String × String)) (token : Nat → Prop) (half : Half) (j i : Nat)
    (d e : Draft) : Prop where
  eq_hold : ∃ s, d = e.hold s half
  alone : e.slot half.other = none
  free : FreeFrom token j i
  last : ∀ k, j < k → k < i → ¬ IsHalf ps half k

theorem stillWaits_self (hhalf : IsHalf ps half j) (hno : ¬ TokenAt start ps j) :
    StillWaits ps (TokenAt start ps) half j (j + 1)
      (draftAt start ps (j + 1)) (draftAt start ps j) := by
  obtain ⟨s, hp⟩ := hhalf
  have halone : (draftAt start ps j).slot half.other = none :=
    Option.eq_none_iff_forall_ne_some.2 fun text htext => hno ⟨half, ⟨s, hp⟩, text, htext⟩
  refine ⟨⟨s, ?_⟩, halone, ?_, fun k hjk hk => by omega⟩
  · rw [draftAt_succ hp, Draft.tell_half halone]
  · exact freeFrom_succ.2 ⟨fun k hjk hk => by omega, fun _ => hno⟩

theorem getElem?_eraseIdx_of_le (hij : j ≤ i) : (ps.eraseIdx j)[i]? = ps[i + 1]? := by
  rw [List.getElem?_eraseIdx, if_neg (by omega)]

/-- An unused half waits until a later one takes its place or the pairs end. -/
theorem StillWaits.step {d' e : Draft} {p : String × String} (hhalf : IsHalf ps half j)
    (hunused : ∀ i, token i → ¬ Latest ps token half i j) (hji : j < i)
    (h : StillWaits ps token half j i d e) (hstep : Step ps token i d d')
    (hp : ps[i]? = some p) :
    d' = e.tell p ∨ StillWaits ps token half j (i + 1) d' (e.tell p) := by
  obtain ⟨s, hhold⟩ := h.eq_hold
  have hslot : d.slot half = some s := by rw [hhold, Draft.slot_hold_self]
  have halone : d.slot half.other = none := by rw [hhold, Draft.slot_hold_other, h.alone]
  cases hstep with
  | wait pair alone no_token =>
    rename_i h' s'
    rw [hp, Option.some.injEq] at pair
    rcases h'.eq_or_eq_other half with rfl | rfl
    · left
      rw [pair, Draft.tell_half h.alone, hhold, Draft.hold_hold]
    · rw [Half.other_other, hslot] at alone
      cases alone
  | meet pair waiting is_token =>
    rename_i h' s' counterpart
    rcases h'.eq_or_eq_other half with rfl | rfl
    · rw [halone] at waiting
      cases waiting
    · -- the counterpart is shown with the half at `j`, as no later one stands before it
      have hother : IsHalf ps half.other i := ⟨s', pair⟩
      refine absurd ⟨Nat.le_of_lt hji, hhalf, h.free, fun k hjk hk hlater => ?_⟩
        (hunused i is_token)
      have hki : k ≠ i := by
        rintro rfl
        exact hlater.not_other hother
      exact h.last k hjk (by omega) hlater
  | grow pair no_half no_token =>
    rename_i q
    rw [hp, Option.some.injEq] at pair
    have hnot : ¬ IsHalf ps half i := fun hh => no_half half (pair ▸ (isHalf_iff hp).1 hh)
    have hsettled : e.Settled := by
      cases half
      · exact Or.inr h.alone
      · exact Or.inl h.alone
    rw [pair, Draft.tell_of_no_half hsettled no_half]
    refine Or.inr ⟨⟨s, ?_⟩, ?_, freeFrom_succ.2 ⟨h.free, fun _ => no_token⟩, ?_⟩
    · rw [hhold]
      cases half <;> rfl
    · cases half <;> exact h.alone
    · intro k hjk hk hlater
      exact h.last k hjk (hlater.lt hk hnot) hlater
  | stop no_pair no_token =>
    rw [hp] at no_pair
    cases no_pair

/-- Without an unused half the drafts are the same but for its waiting. -/
theorem draftAt_eraseIdx (hhalf : IsHalf ps half j)
    (hunused : ∀ i, TokenAt start ps i → ¬ Latest ps (TokenAt start ps) half i j) (n : Nat)
    (hn : j + n < ps.length) :
    draftAt start ps (j + n + 1) = draftAt start (ps.eraseIdx j) (j + n) ∨
      StillWaits ps (TokenAt start ps) half j (j + n + 1)
        (draftAt start ps (j + n + 1)) (draftAt start (ps.eraseIdx j) (j + n)) := by
  induction n with
  | zero =>
    have hbefore : draftAt start (ps.eraseIdx j) j = draftAt start ps j := by
      rw [draftAt, draftAt, List.take_eraseIdx_eq_take_of_le _ _ _ (Nat.le_refl j)]
    have hno : ¬ TokenAt start ps j := fun htoken => hunused j htoken (latest_self hhalf)
    have hwaits := stillWaits_self hhalf hno
    rw [← hbefore] at hwaits
    exact Or.inr hwaits
  | succ n ih =>
    have hp : ps[j + n + 1]? = some ps[j + n + 1] := List.getElem?_eq_getElem hn
    have herased : draftAt start (ps.eraseIdx j) (j + n + 1) =
        (draftAt start (ps.eraseIdx j) (j + n)).tell ps[j + n + 1] := by
      rw [draftAt_succ]
      rw [getElem?_eraseIdx_of_le (by omega), hp]
    rw [← Nat.add_assoc, herased]
    rcases ih (by omega) with heq | hwaits
    · rw [draftAt_succ hp, heq]
      exact Or.inl rfl
    · exact hwaits.step hhalf hunused (by omega) (step_draftAt start ps _) hp

theorem text_eraseIdx (hhalf : IsHalf ps half j)
    (hunused : ∀ i, TokenAt start ps i → ¬ Latest ps (TokenAt start ps) half i j) :
    (draftAt start (ps.eraseIdx j) (ps.eraseIdx j).length).text =
      (draftAt start ps ps.length).text := by
  have hj : j < ps.length := by
    obtain ⟨s, hp⟩ := hhalf
    exact (List.getElem?_eq_some_iff.1 hp).1
  have hlength : (ps.eraseIdx j).length = ps.length - 1 := List.length_eraseIdx_of_lt hj
  have hlast := draftAt_eraseIdx hhalf hunused (ps.length - 1 - j) (by omega)
  have hn : j + (ps.length - 1 - j) = ps.length - 1 := by omega
  have hsucc : ps.length - 1 + 1 = ps.length := by omega
  rw [hn, hsucc] at hlast
  rw [hlength]
  rcases hlast with heq | hwaits
  · rw [heq]
  · obtain ⟨s, hhold⟩ := hwaits.eq_hold
    rw [hhold]
    cases half <;> rfl

end Run

/-! ### Messages -/

theorem message_eq (pass name : String) (entries : List Value) :
    message pass name entries = .ofList
      (draftAt (messageStart pass name) (shown entries) (shown entries).length).text := by
  have hsettled : Draft.Settled { text := messageStart pass name } := Or.inl rfl
  rw [message, Draft.foldl_addPair hsettled, draftAt_length]
  rfl

/-- The message of a pass, a name and entries: what it shows at each position, which halves its
tokens use, and what makes no difference to it. -/
structure Rendered (pass name : String) (entries : List Value) (token : Nat → Prop)
    (text : Nat → List Char) (result : String) : Prop where
  written : Written pass name (shown entries) token text
  result_eq : result = .ofList (text (shown entries).length)
  used_once : ∀ (half : Half) i i' j, token i → token i' →
    Latest (shown entries) token half i j → Latest (shown entries) token half i' j → i = i'
  regrouped : ∀ others, shown others = shown entries → message pass name others = result
  unused : ∀ (half : Half) j, IsHalf (shown entries) half j →
    (∀ i, token i → ¬ Latest (shown entries) token half i j) →
    ∀ others, shown others = (shown entries).eraseIdx j → message pass name others = result

theorem eq_of_latest {ps : List (String × String)} {token : Nat → Prop} {half : Half}
    {i i' j : Nat} (hi : token i) (hi' : token i') (h : Latest ps token half i j)
    (h' : Latest ps token half i' j) : i = i' := by
  rcases Nat.lt_trichotomy i i' with hlt | heq | hgt
  · exact absurd hi (h'.free i h.le hlt)
  · exact heq
  · exact absurd hi' (h.free i' h'.le hgt)

theorem rendered_message (pass name : String) (entries : List Value) :
    Rendered pass name entries (TokenAt (messageStart pass name) (shown entries))
      (fun i => (draftAt (messageStart pass name) (shown entries) i).text)
      (message pass name entries) where
  written := written_draftAt pass name (shown entries)
  result_eq := message_eq pass name entries
  used_once := fun _ _ _ _ hi hi' h h' => eq_of_latest hi hi' h h'
  regrouped := by
    intro others hothers
    rw [message_eq, message_eq, hothers]
  unused := by
    intro half j hhalf hunused others hothers
    rw [message_eq, message_eq, hothers, text_eraseIdx hhalf hunused]

theorem rendered_of_remark? {document : Value} {r : Remark} (h : remark? document = some r) :
    ∃ pass name, textUnder? document "Pass" = some pass ∧
      textUnder? document "Name" = some name ∧
      ∃ token text, Rendered pass name (argumentsOf document) token text r.message := by
  obtain ⟨status, body, hbody, rfl⟩ := exists_body_of_remark? h
  refine ⟨body.pass, body.name, hbody.pass, hbody.name, ?_⟩
  rw [hbody.arguments]
  exact ⟨_, _, rendered_message body.pass body.name body.arguments⟩

/-- Two callees before a caller, with a text and a type between them, and a caller left over. -/
def scatteredHalves : List Value :=
  [.mapping [(.string "Callee", .string "a")],
    .mapping [(.string "Callee", .string "b"), (.string "String", .string " x ")],
    .tagged "t" (.mapping [(.string "Type", .bool true)]),
    .sequence [],
    .mapping [(.tagged "t" (.string "Caller"), .string "c"), (.string "Caller", .null)],
    .mapping [(.string "Caller", .string "d"), (.string "String", .string ".")]]

theorem rendered_scatteredHalves :
    ∃ r, remark? (inliningDocument scatteredHalves) = some r ∧
      r.message = "inline: N x type: true b -> c." ∧
      ∃ pass name, textUnder? (inliningDocument scatteredHalves) "Pass" = some pass ∧
        textUnder? (inliningDocument scatteredHalves) "Name" = some name ∧
        ∃ token text, Rendered pass name (argumentsOf (inliningDocument scatteredHalves))
          token text r.message := by
  have hread : (remark? (inliningDocument scatteredHalves)).map (·.message) =
      some "inline: N x type: true b -> c." := by decide +kernel
  obtain ⟨r, hr, hmessage⟩ := Option.map_eq_some_iff.1 hread
  exact ⟨r, hr, hmessage, rendered_of_remark? hr⟩

end BuildRemarks.Record
