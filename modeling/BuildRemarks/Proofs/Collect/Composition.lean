import BuildRemarks.Collect.Run
import BuildRemarks.Grammar

/-!
# Collecting is reading grammar by grammar

Collecting reads the bytes of each active grammar with that grammar and joins the results. It is
decided by which grammars are active and by the bytes that those read: the first of them that
fails is the failure of the whole, and what no active grammar reads does not matter.
-/

namespace BuildRemarks.Collect

/-- The grammar is active in the run, and these are the bytes that it reads. -/
inductive Reads (config : Config) (run : Run) : Grammar → Text.Bytes → Prop where
  | printed (htext : config.text = true) : Reads config run .printed run.output
  | kernel (hkernel : config.kernel = true) {argument : String}
    (hmem : argument ∈ run.arguments)
    (hflag : "Rpass=kernel-info".toList <:+: argument.toList) :
    Reads config run .kernel run.output
  | records (hrecords : config.records = true) {stream : Text.Bytes}
    (hstream : run.records = some stream) : Reads config run .records stream

/-- The place of a grammar in the order of collecting. -/
def turn : Grammar → Nat
  | .printed => 0
  | .kernel => 1
  | .records => 2

/-- The remarks of all active grammars, or the failure of the first of them that fails. -/
inductive Outcome (config : Config) (run : Run) : Except Failure (List Remark) → Prop where
  | joined (remarks : Grammar → List Remark)
    (hactive : ∀ g stream, Reads config run g stream → g.parse stream = .ok (remarks g))
    (hidle : ∀ g, (∀ stream, ¬ Reads config run g stream) → remarks g = []) :
    Outcome config run (.ok (remarks .printed ++ remarks .kernel ++ remarks .records))
  | failed {g : Grammar} {stream : Text.Bytes} {failure : Failure}
    (hreads : Reads config run g stream) (hfails : g.parse stream = .error failure)
    (hbefore : ∀ g' stream', turn g' < turn g → Reads config run g' stream' →
      ∃ remarks, g'.parse stream' = .ok remarks) :
    Outcome config run (.error failure)

def source? (config : Config) (run : Run) : Grammar → Option Text.Bytes
  | .printed => if config.text then some run.output else none
  | .kernel => if config.kernelEnabled run.arguments then some run.output else none
  | .records => if config.records then run.records else none

/-- What a grammar makes of its bytes: without any it gives no remarks. -/
def readBy (g : Grammar) : Option Text.Bytes → Except Failure (List Remark)
  | some stream => g.parse stream
  | none => .ok []

/-! ### Active grammars -/

theorem kernelEnabled_iff (config : Config) (arguments : List String) :
    config.kernelEnabled arguments = true ↔
      config.kernel = true ∧
        ∃ a ∈ arguments, "Rpass=kernel-info".toList <:+: a.toList := by
  rw [Config.kernelEnabled, Bool.and_eq_true, List.any_eq_true]
  simp only [Text.holds, Text.occursIn_iff]
  rfl

theorem reads_iff {config : Config} {run : Run} {g : Grammar} {stream : Text.Bytes} :
    Reads config run g stream ↔ source? config run g = some stream := by
  constructor
  · intro h
    cases h with
    | printed htext => rw [source?, if_pos htext]
    | kernel hkernel hmem hflag =>
      rw [source?, if_pos ((kernelEnabled_iff _ _).2 ⟨hkernel, _, hmem, hflag⟩)]
    | records hrecords hstream => rw [source?, if_pos hrecords, hstream]
  · intro h
    cases g with
    | printed =>
      obtain ⟨htext, hout⟩ := Option.ite_none_right_eq_some.1 h
      exact Option.some.inj hout ▸ .printed htext
    | kernel =>
      obtain ⟨henabled, hout⟩ := Option.ite_none_right_eq_some.1 h
      obtain ⟨hkernel, a, hmem, hflag⟩ := (kernelEnabled_iff _ _).1 henabled
      exact Option.some.inj hout ▸ .kernel hkernel hmem hflag
    | records =>
      obtain ⟨hrecords, hstream⟩ := Option.ite_none_right_eq_some.1 h
      exact .records hrecords hstream

variable {config : Config} {run : Run} {g : Grammar}

theorem source?_eq_none (h : ∀ stream, ¬ Reads config run g stream) :
    source? config run g = none :=
  Option.eq_none_iff_forall_ne_some.2 fun stream hs => h stream (reads_iff.2 hs)

theorem readBy_of_reads {stream : Text.Bytes} (h : Reads config run g stream) :
    readBy g (source? config run g) = g.parse stream := by
  rw [reads_iff.1 h, readBy]

theorem joined_of_ok {remarks : Grammar → List Remark}
    (h : ∀ g, readBy g (source? config run g) = .ok (remarks g)) :
    Outcome config run (.ok (remarks .printed ++ remarks .kernel ++ remarks .records)) := by
  refine .joined remarks (fun g stream hreads => ?_) fun g hno => ?_
  · rw [← readBy_of_reads hreads, h]
  · have hg := h g
    rw [source?_eq_none hno, readBy] at hg
    exact (Except.ok.inj hg).symm

/-- Where reading fails, an active grammar has failed. -/
theorem failed_of_error {failure : Failure}
    (h : readBy g (source? config run g) = .error failure)
    (hbefore : ∀ g', turn g' < turn g →
      ∃ remarks, readBy g' (source? config run g') = .ok remarks) :
    Outcome config run (.error failure) := by
  cases hs : source? config run g with
  | none =>
    rw [hs, readBy] at h
    exact absurd h (by simp)
  | some stream =>
    rw [hs, readBy] at h
    refine .failed (reads_iff.2 hs) h fun g' stream' hturn hreads => ?_
    obtain ⟨remarks, hremarks⟩ := hbefore g' hturn
    exact ⟨remarks, (readBy_of_reads hreads).symm.trans hremarks⟩

/-! ### All grammars in turn -/

theorem collect_eq (config : Config) (run : Run) :
    collect config run = (do
      let printed ← readBy .printed (source? config run .printed)
      let kernel ← readBy .kernel (source? config run .kernel)
      let records ← readBy .records (source? config run .records)
      pure (printed ++ kernel ++ records)) := by
  have hprinted : part config.text (Printed.parse run.output) =
      readBy .printed (source? config run .printed) := by
    rw [part, source?]
    split <;> rfl
  have hkernel : part (config.kernelEnabled run.arguments) (Kernel.parse run.output) =
      readBy .kernel (source? config run .kernel) := by
    rw [part, source?]
    split <;> rfl
  have hrecords : (match run.records with
      | some stream => part config.records (Record.parse stream)
      | none => .ok []) = readBy .records (source? config run .records) := by
    rw [source?]
    cases run.records with
    | none => rw [ite_self, readBy]
    | some stream =>
      show part config.records (Record.parse stream) = _
      rw [part]
      split <;> rfl
  rw [← hprinted, ← hkernel, ← hrecords, collect]
  cases run.records <;> rfl

theorem outcome_collect (config : Config) (run : Run) :
    Outcome config run (collect config run) := by
  rw [collect_eq]
  -- the failure of a grammar counts if those before it have not failed
  cases hprinted : readBy .printed (source? config run .printed) with
  | error failure => exact failed_of_error hprinted fun _ hturn => absurd hturn (Nat.not_lt_zero _)
  | ok printed =>
    cases hkernel : readBy .kernel (source? config run .kernel) with
    | error failure =>
      refine failed_of_error hkernel fun g' hturn => ?_
      cases g' with
      | printed => exact ⟨printed, hprinted⟩
      | kernel | records => exact absurd hturn (by decide)
    | ok kernel =>
      cases hrecords : readBy .records (source? config run .records) with
      | error failure =>
        refine failed_of_error hrecords fun g' hturn => ?_
        cases g' with
        | printed => exact ⟨printed, hprinted⟩
        | kernel => exact ⟨kernel, hkernel⟩
        | records => exact absurd hturn (by decide)
      | ok records =>
        let remarks : Grammar → List Remark
          | .printed => printed
          | .kernel => kernel
          | .records => records
        have hall (g : Grammar) : readBy g (source? config run g) = .ok (remarks g) := by
          cases g with
          | printed => exact hprinted
          | kernel => exact hkernel
          | records => exact hrecords
        exact joined_of_ok hall

theorem Outcome.ok_iff {result : Except Failure (List Remark)} (h : Outcome config run result) :
    (∃ remarks, result = .ok remarks) ↔
      ∀ g stream, Reads config run g stream → ∃ remarks, g.parse stream = .ok remarks := by
  cases h with
  | joined remarks hactive _ =>
    exact ⟨fun _ g stream hreads => ⟨remarks g, hactive g stream hreads⟩,
      fun _ => ⟨_, rfl⟩⟩
  | failed hreads hfails _ =>
    constructor
    · rintro ⟨_, h⟩
      exact absurd h (by simp)
    · intro hall
      obtain ⟨_, hparse⟩ := hall _ _ hreads
      rw [hfails] at hparse
      exact absurd hparse (by simp)

/-- Runs in which the same grammars read the same bytes collect the same. -/
theorem collect_congr {config' : Config} {run' : Run}
    (h : ∀ g stream, Reads config run g stream ↔ Reads config' run' g stream) :
    collect config run = collect config' run' := by
  have hsource (g : Grammar) : source? config run g = source? config' run' g := by
    refine Option.ext fun stream => ?_
    rw [← reads_iff, ← reads_iff]
    exact h g stream
  rw [collect_eq, collect_eq, hsource, hsource, hsource]

/-- What collecting gives is composed of what the active grammars make of their bytes, and of
nothing else. -/
theorem collect_composed (config : Config) (run : Run) :
    ((∃ remarks, collect config run = .ok remarks) ↔
      ∀ g stream, Reads config run g stream → ∃ remarks, g.parse stream = .ok remarks) ∧
    Outcome config run (collect config run) ∧
    ∀ config' run',
      (∀ g stream, Reads config run g stream ↔ Reads config' run' g stream) →
      collect config run = collect config' run' :=
  ⟨(outcome_collect config run).ok_iff, outcome_collect config run,
    fun _ _ h => collect_congr h⟩

/-- Output that no text can be read from is as good as none if nobody reads it. -/
theorem collect_unread_output :
    collect { text := false } ⟨["-O2"], [0xFF], none⟩ =
      collect { text := false, kernel := false } ⟨["-Rpass=kernel-info"], [], none⟩ := by
  have hsource (g : Grammar) : source? { text := false } ⟨["-O2"], [0xFF], none⟩ g =
      source? { text := false, kernel := false } ⟨["-Rpass=kernel-info"], [], none⟩ g := by
    cases g with
    | printed => rfl
    | kernel => decide
    | records => rfl
  refine (collect_composed _ _).2.2 _ _ fun g stream => ?_
  rw [reads_iff, reads_iff, hsource]

end BuildRemarks.Collect
