import BuildRemarks.Collect.Run

/-!
# Sessions

In a session a build is worked on: remarks are attached to it, those of a run of the compiler or
others, and it is renamed. The build outlasts an action that fails.
-/

namespace BuildRemarks.Collect

abbrev Session (α : Type) := ExceptT Failure (StateM Build.Record) α

inductive Action where
  | attach (config : Config) (run : Run)
  | attachRemarks (remarks : List Remark)
  | rename (id : String)

namespace Session

def attachRemarks (remarks : List Remark) : Session Unit :=
  modify fun build => build.attach remarks

/-- Collects the remarks of a run and attaches them; the answer is their number. -/
def attach (config : Config) (run : Run) : Session Nat := do
  let remarks ← collect config run
  attachRemarks remarks
  pure remarks.length

end Session

/-- Performs an action; the answer is the number of remarks that it has attached. -/
def Action.perform : Action → Session Nat
  | attach config run => Session.attach config run
  | attachRemarks remarks => do
    Session.attachRemarks remarks
    pure remarks.length
  | rename id => do
    modify fun build => { build with id }
    pure 0

def Action.outcome (action : Action) (build : Build.Record) : Except Failure Nat × Build.Record :=
  action.perform.run.run build

/-- The build behind many actions, performed in turn whether or not one of them fails. -/
def afterActions (build : Build.Record) (actions : List Action) : Build.Record :=
  actions.foldl (fun build action => (action.outcome build).2) build

theorem outcome_attach (config : Config) (run : Run) (build : Build.Record) :
    (Action.attach config run).outcome build =
      match Collect.attach config build run with
      | .ok (count, build) => (.ok count, build)
      | .error failure => (.error failure, build) := by
  rw [Collect.attach]
  show (Session.attach config run).run.run build = _
  rw [Session.attach]
  cases collect config run <;> rfl

theorem outcome_attachRemarks (remarks : List Remark) (build : Build.Record) :
    (Action.attachRemarks remarks).outcome build = (.ok remarks.length, build.attach remarks) :=
  rfl

theorem outcome_rename (id : String) (build : Build.Record) :
    (Action.rename id).outcome build = (.ok 0, { build with id }) := rfl

end BuildRemarks.Collect
