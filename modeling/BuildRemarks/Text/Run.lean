/-!
# Runs of characters

A run is the longest stretch at the start of a text whose characters pass a test.
-/

namespace BuildRemarks.Text

/-- The run at the start of a text, and what follows it. -/
def takeRun (test : Char → Bool) (cs : List Char) : List Char × List Char :=
  (cs.takeWhile test, cs.dropWhile test)

theorem takeRun_append (test : Char → Bool) (cs : List Char) :
    (takeRun test cs).1 ++ (takeRun test cs).2 = cs :=
  List.takeWhile_append_dropWhile

theorem of_mem_takeRun {test : Char → Bool} {cs : List Char} {c : Char}
    (h : c ∈ (takeRun test cs).1) : test c = true :=
  List.all_eq_true.1 List.all_takeWhile c h

theorem takeRun_cons_of_neg {test : Char → Bool} {c : Char} (cs : List Char)
    (h : test c = false) : takeRun test (c :: cs) = ([], c :: cs) := by
  rw [takeRun, List.takeWhile_cons, List.dropWhile_cons, h]
  rfl

theorem takeRun_of_all {test : Char → Bool} {run : List Char} (rest : List Char)
    (h : ∀ c ∈ run, test c = true) :
    takeRun test (run ++ rest) = (run ++ (takeRun test rest).1, (takeRun test rest).2) := by
  simp only [takeRun, List.takeWhile_append_of_pos h, List.dropWhile_append_of_pos h]

/-- A nonempty run up to the character `stop`, and what follows that character. -/
def runTo? (stop : Char) (cs : List Char) : Option (List Char × List Char) :=
  match takeRun (· != stop) cs with
  | ([], _) => none
  | (_, []) => none
  | (run, _ :: rest) => some (run, rest)

theorem takeRun_ne (stop : Char) {run : List Char} (rest : List Char) (h : stop ∉ run) :
    takeRun (· != stop) (run ++ stop :: rest) = (run, stop :: rest) := by
  have hrun : ∀ c ∈ run, (c != stop) = true := by
    intro c hc
    exact bne_iff_ne.2 fun e => h (e ▸ hc)
  have hstop : takeRun (· != stop) (stop :: rest) = ([], stop :: rest) :=
    takeRun_cons_of_neg rest (bne_self_eq_false stop)
  rw [takeRun_of_all (stop :: rest) hrun, hstop, List.append_nil]

theorem head_eq_of_takeRun_ne {stop c : Char} {cs run rest : List Char}
    (h : takeRun (· != stop) cs = (run, c :: rest)) : c = stop := by
  have hd := List.head?_dropWhile_not (· != stop) cs
  have hr : cs.dropWhile (· != stop) = c :: rest := congrArg Prod.snd h
  rw [hr] at hd
  simpa using hd

theorem runTo?_eq_some_iff {stop : Char} {cs run rest : List Char} :
    runTo? stop cs = some (run, rest) ↔
      run ≠ [] ∧ stop ∉ run ∧ cs = run ++ stop :: rest := by
  constructor
  · intro h
    rw [runTo?] at h
    split at h
    · exact absurd h (by simp)
    · exact absurd h (by simp)
    · rename_i r c t hne ht
      simp only [Option.some.injEq, Prod.mk.injEq] at h
      obtain ⟨rfl, rfl⟩ := h
      have hc : c = stop := head_eq_of_takeRun_ne ht
      have happ := takeRun_append (· != stop) cs
      have hmem : ∀ d ∈ r, (d != stop) = true := by
        intro d hd
        have hd' : d ∈ (takeRun (· != stop) cs).1 := by rw [ht]; exact hd
        have ht' := of_mem_takeRun hd'
        exact ht'
      refine ⟨fun e => hne (e ▸ rfl), fun hs => ?_, ?_⟩
      · exact bne_iff_ne.1 (hmem stop hs) rfl
      · rw [ht, hc] at happ
        exact happ.symm
  · rintro ⟨hne, hns, rfl⟩
    rw [runTo?, takeRun_ne stop rest hns]
    cases run with
    | nil => exact absurd rfl hne
    | cons c run => rfl

end BuildRemarks.Text
