import BuildRemarks.Collect.Session
import BuildRemarks.Proofs.Build.Identifiers

/-!
# The law of a session

Whatever is done to a build that begins without remarks, its remarks are those that were attached
so far, in order and as they were attached: an action that fails leaves the build alone, one that
succeeds adds its remarks behind the others. Each remark has the identifier of its position under
the name that the build had then, and no two have the same.
-/

namespace BuildRemarks.Collect

open Build (Record)

/-- What comes of an action: its answer and the build behind it. -/
inductive Comes (build : Record) : Action → Except Failure Nat → Record → Prop where
  | failed {config : Config} {run : Run} {failure : Failure}
    (hfails : collect config run = .error failure) :
    Comes build (.attach config run) (.error failure) build
  | attached {config : Config} {run : Run} {remarks : List Remark} {later : Record}
    (hcollects : collect config run = .ok remarks) (hlater : Record.Extends remarks build later) :
    Comes build (.attach config run) (.ok remarks.length) later
  | added {remarks : List Remark} {later : Record}
    (hlater : Record.Extends remarks build later) :
    Comes build (.attachRemarks remarks) (.ok remarks.length) later
  | renamed {id : String} : Comes build (.rename id) (.ok 0) { build with id }

def stateAt (build : Record) (actions : List Action) (k : Nat) : Record :=
  afterActions build (actions.take k)

/-- The law of the session in which these actions are performed on this build. -/
structure SessionLaw (build : Record) (actions : List Action) : Prop where
  comes : ∀ k action, actions[k]? = some action →
    Comes (stateAt build actions k) action (action.outcome (stateAt build actions k)).1
      (stateAt build actions (k + 1))
  kept : ∀ k l, k ≤ l →
    (stateAt build actions k).remarks <+: (stateAt build actions l).remarks
  numbered : ∀ l i r, (stateAt build actions l).remarks[i]? = some r →
    ∃ k < l, (stateAt build actions k).remarks.length ≤ i ∧
      i < (stateAt build actions (k + 1)).remarks.length ∧
      r.id = Record.remarkId (stateAt build actions k).id (i + 1)
  distinct : ∀ l, ((stateAt build actions l).remarks.map (·.id)).Nodup

/-! ### One action -/

theorem comes_outcome (action : Action) (build : Record) :
    Comes build action (action.outcome build).1 (action.outcome build).2 := by
  cases action with
  | attach config run =>
    rw [outcome_attach, attach]
    cases hcollect : collect config run with
    | error failure => exact .failed hcollect
    | ok remarks => exact .attached hcollect (Record.extends_attach build remarks)
  | attachRemarks remarks =>
    rw [outcome_attachRemarks]
    exact .added (Record.extends_attach build remarks)
  | rename id =>
    rw [outcome_rename]
    exact .renamed

/-- An action attaches remarks, or it leaves those of the build alone. -/
theorem outcome_cases (action : Action) (build : Record) :
    (∃ remarks, (action.outcome build).2 = build.attach remarks) ∨
      (action.outcome build).2.remarks = build.remarks := by
  cases action with
  | attach config run =>
    rw [outcome_attach, attach]
    cases collect config run with
    | error failure => exact Or.inr rfl
    | ok remarks => exact Or.inl ⟨remarks, rfl⟩
  | attachRemarks remarks =>
    rw [outcome_attachRemarks]
    exact Or.inl ⟨remarks, rfl⟩
  | rename id =>
    rw [outcome_rename]
    exact Or.inr rfl

theorem remarks_prefix_outcome (action : Action) (build : Record) :
    build.remarks <+: (action.outcome build).2.remarks := by
  rcases outcome_cases action build with ⟨remarks, h⟩ | h
  · rw [h]
    exact List.prefix_append _ _
  · exact h.symm ▸ List.prefix_rfl

theorem id_of_getElem?_outcome {action : Action} {build : Record} {i : Nat} {r : Remark}
    (hi : build.remarks.length ≤ i) (h : (action.outcome build).2.remarks[i]? = some r) :
    r.id = Record.remarkId build.id (i + 1) := by
  rcases outcome_cases action build with ⟨remarks, hattach⟩ | hsame
  · rw [hattach] at h
    exact Record.id_of_getElem?_attach hi h
  · rw [hsame, List.getElem?_eq_none hi] at h
    exact absurd h (by simp)

/-! ### Many actions -/

variable {build : Record} {actions : List Action} {action : Action} {k : Nat}

theorem stateAt_succ (h : actions[k]? = some action) :
    stateAt build actions (k + 1) = (action.outcome (stateAt build actions k)).2 := by
  rw [stateAt, List.take_add_one, h, afterActions, List.foldl_append]
  rfl

theorem stateAt_succ_of_none (h : actions[k]? = none) :
    stateAt build actions (k + 1) = stateAt build actions k := by
  rw [stateAt, List.take_add_one, h, Option.toList_none, List.append_nil, stateAt]

theorem remarks_prefix_stateAt_succ (build : Record) (actions : List Action) (k : Nat) :
    (stateAt build actions k).remarks <+: (stateAt build actions (k + 1)).remarks := by
  cases h : actions[k]? with
  | none =>
    exact (stateAt_succ_of_none h).symm ▸ List.prefix_rfl
  | some action =>
    rw [stateAt_succ h]
    exact remarks_prefix_outcome action _

theorem remarks_prefix_stateAt (build : Record) (actions : List Action) {k l : Nat}
    (h : k ≤ l) : (stateAt build actions k).remarks <+: (stateAt build actions l).remarks := by
  induction h with
  | refl => exact List.prefix_rfl
  | step _ ih => exact ih.trans (remarks_prefix_stateAt_succ build actions _)

theorem id_of_getElem?_stateAt_succ {i : Nat} {r : Remark}
    (hi : (stateAt build actions k).remarks.length ≤ i)
    (h : (stateAt build actions (k + 1)).remarks[i]? = some r) :
    r.id = Record.remarkId (stateAt build actions k).id (i + 1) := by
  cases haction : actions[k]? with
  | none =>
    rw [stateAt_succ_of_none haction, List.getElem?_eq_none hi] at h
    exact absurd h (by simp)
  | some action =>
    rw [stateAt_succ haction] at h
    exact id_of_getElem?_outcome hi h

/-- Each remark was added by one of the actions and has had its identifier since. -/
theorem numbered_stateAt (hbuild : build.remarks = []) (l : Nat) {i : Nat} {r : Remark}
    (h : (stateAt build actions l).remarks[i]? = some r) :
    ∃ k < l, (stateAt build actions k).remarks.length ≤ i ∧
      i < (stateAt build actions (k + 1)).remarks.length ∧
      r.id = Record.remarkId (stateAt build actions k).id (i + 1) := by
  induction l with
  | zero =>
    have hnone : (stateAt build actions 0).remarks = [] := hbuild
    rw [hnone] at h
    exact absurd h (by simp)
  | succ l ih =>
    have hlast : i < (stateAt build actions (l + 1)).remarks.length :=
      (List.getElem?_eq_some_iff.1 h).1
    -- the remark was there before the last action, or that action has added it
    by_cases hi : i < (stateAt build actions l).remarks.length
    · have hbefore : (stateAt build actions l).remarks[i]? = some r := by
        obtain ⟨added, hadded⟩ := remarks_prefix_stateAt_succ build actions l
        rwa [← hadded, List.getElem?_append_left hi] at h
      obtain ⟨k, hk, hk'⟩ := ih hbefore
      exact ⟨k, Nat.lt_succ_of_lt hk, hk'⟩
    · have hi : (stateAt build actions l).remarks.length ≤ i := Nat.le_of_not_lt hi
      exact ⟨l, Nat.lt_succ_self l, hi, hlast, id_of_getElem?_stateAt_succ hi h⟩

/-- Every session on a build that has no remarks yet obeys the law. -/
theorem sessionLaw_of_no_remarks (hbuild : build.remarks = []) (actions : List Action) :
    SessionLaw build actions where
  comes k action h := by
    rw [stateAt_succ h]
    exact comes_outcome action _
  kept k l h := remarks_prefix_stateAt build actions h
  numbered l i r h := numbered_stateAt hbuild l h
  distinct l := by
    refine Record.nodup_ids fun i r h => ?_
    obtain ⟨k, -, -, -, hid⟩ := numbered_stateAt hbuild l h
    exact ⟨_, hid⟩

/-- Remarks, a run whose output is no text, another name that ends like an identifier, and more
remarks. -/
def renamedSession : List Action :=
  [.attachRemarks [.plain .info .analysis .analysis "a", .plain .info .analysis .analysis "b"],
    .attach {} ⟨[], [0xFF], none⟩,
    .rename "b-1",
    .attachRemarks [.plain .info .analysis .analysis "c"]]

theorem sessionLaw_renamedSession :
    (Record.new "b").remarks = [] ∧ SessionLaw (.new "b") renamedSession ∧
      (stateAt (.new "b") renamedSession 4).remarks.map (·.id) = ["b-1", "b-2", "b-1-3"] :=
  ⟨rfl, sessionLaw_of_no_remarks rfl renamedSession, by decide⟩

end BuildRemarks.Collect
