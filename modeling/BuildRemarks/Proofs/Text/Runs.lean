import BuildRemarks.Text.Search

/-!
# Reading what was put together

A run, a stretch up to a stop or a fixed lead is read back off the text that was put together
from it and an arbitrary rest.
-/

namespace BuildRemarks.Text

theorem takeRun_eq_iff {test : Char → Bool} {cs run rest : List Char} :
    takeRun test cs = (run, rest) ↔
      cs = run ++ rest ∧ (∀ c ∈ run, test c = true) ∧
        ∀ c, rest.head? = some c → test c = false := by
  constructor
  · intro h
    obtain ⟨rfl, rfl⟩ := Prod.mk.inj h
    refine ⟨(takeRun_append test cs).symm, fun c hc => of_mem_takeRun hc, fun c hc => ?_⟩
    have hd := List.head?_dropWhile_not test cs
    rw [hc] at hd
    exact hd
  · rintro ⟨rfl, hrun, hrest⟩
    have hstop : takeRun test rest = ([], rest) := by
      cases rest with
      | nil => rfl
      | cons c cs => exact takeRun_cons_of_neg cs (hrest c rfl)
    rw [takeRun_of_all rest hrun, hstop, List.append_nil]

theorem takeRun_append_cons {test : Char → Bool} {run : List Char} {stop : Char}
    (rest : List Char) (h : ∀ c ∈ run, test c = true) (hstop : test stop = false) :
    takeRun test (run ++ stop :: rest) = (run, stop :: rest) :=
  takeRun_eq_iff.2 ⟨rfl, h, fun _ hc => Option.some.inj hc ▸ hstop⟩

theorem runTo?_append {stop : Char} {run : List Char} (rest : List Char) (hne : run ≠ [])
    (h : stop ∉ run) : runTo? stop (run ++ stop :: rest) = some (run, rest) :=
  runTo?_eq_some_iff.2 ⟨hne, h, rfl⟩

theorem after?_append (lead : String) (rest : List Char) :
    after? lead (lead.toList ++ rest) = some rest :=
  after?_eq_some_iff.2 rfl

theorem after?_eq_none {lead : String} {cs : List Char} (h : ¬ lead.toList <+: cs) :
    after? lead cs = none := by
  refine Option.eq_none_iff_forall_ne_some.2 fun rest hrest => h ?_
  exact ⟨rest, (after?_eq_some_iff.1 hrest).symm⟩

end BuildRemarks.Text
