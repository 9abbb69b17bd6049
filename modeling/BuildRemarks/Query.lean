import BuildRemarks.Remark.Basic

/-!
# Queries

Questions about a list of remarks (specification, §G.1): which of them are of some class,
and how often something occurs in them. Names come in ascending order, remarks in that of
the list.
-/

namespace BuildRemarks.Query

structure StatusSummary where
  passed : Nat := 0
  missed : Nat := 0
  analysis : Nat := 0
  deriving DecidableEq

namespace StatusSummary

def total (s : StatusSummary) : Nat := s.passed + s.missed + s.analysis

def add (s : StatusSummary) : Remark.Status → StatusSummary
  | .passed => { s with passed := s.passed + 1 }
  | .missed => { s with missed := s.missed + 1 }
  | .analysis => { s with analysis := s.analysis + 1 }

def ofRemarks (rs : List Remark) : StatusSummary :=
  rs.foldl (fun s r => s.add r.status) {}

theorem total_add (s : StatusSummary) (o : Remark.Status) : (s.add o).total = s.total + 1 := by
  cases o <;> simp only [add, total] <;> omega

theorem total_foldl_add (s : StatusSummary) (rs : List Remark) :
    (rs.foldl (fun s r => s.add r.status) s).total = s.total + rs.length := by
  induction rs generalizing s with
  | nil => rfl
  | cons r rs ih =>
    rw [List.foldl_cons, ih, total_add, List.length_cons]
    omega

theorem total_ofRemarks (rs : List Remark) : (ofRemarks rs).total = rs.length :=
  (total_foldl_add {} rs).trans (Nat.zero_add rs.length)

end StatusSummary

def byPass (rs : List Remark) (pass : Remark.Pass) : List Remark :=
  rs.filter fun r => r.pass = pass

def byKind (rs : List Remark) (kind : Remark.Kind) : List Remark :=
  rs.filter fun r => r.kind = kind

def withReason (rs : List Remark) (reason : String) : List Remark :=
  rs.filter fun r => r.args.reason = some reason

/-- The function that a remark belongs to: its own, or else that of its location. -/
def functionOf (r : Remark) : Option String :=
  let name := if r.function = "" then r.location.bind (·.function) else some r.function
  name.filter (· ≠ "")

def addToGroup {α : Type} (groups : NameMap (List α)) (name : String) (a : α) :
    NameMap (List α) :=
  groups.alter name fun as => as.getD [] ++ [a]

/-- The values grouped by the names that `name?` gives them. -/
def groupBy {α : Type} (name? : α → Option String) (as : List α) : NameMap (List α) :=
  as.foldl (fun groups a =>
    match name? a with
    | some name => addToGroup groups name a
    | none => groups) .empty

def byFunction (rs : List Remark) : NameMap (List Remark) := groupBy functionOf rs

/-- The kernels that kernel remarks belong to, sorted, and once each. -/
def kernelNames (rs : List Remark) : List String :=
  ((byKind rs .kernel).filterMap functionOf).mergeSort.eraseReps

def countOne (counts : NameMap Nat) (name : String) : NameMap Nat :=
  counts.alter name fun n => n.getD 0 + 1

/-- How often each name occurs. -/
def count (names : List String) : NameMap Nat := names.foldl countOne .empty

theorem getD_countOne (counts : NameMap Nat) (name other : String) :
    ((countOne counts name).get? other).getD 0 =
      (counts.get? other).getD 0 + if other = name then 1 else 0 := by
  rw [countOne, NameMap.get?_alter]
  split
  · rename_i h
    rw [Option.getD_some, h]
  · rw [Nat.add_zero]

theorem getD_foldl_countOne (names : List String) (counts : NameMap Nat) (name : String) :
    ((names.foldl countOne counts).get? name).getD 0 =
      (counts.get? name).getD 0 + names.count name := by
  induction names generalizing counts with
  | nil => rfl
  | cons n ns ih =>
    rw [List.foldl_cons, ih, getD_countOne, List.count_cons, Nat.add_assoc,
      Nat.add_comm (ns.count name)]
    by_cases h : name = n
    · rw [if_pos h, if_pos (beq_iff_eq.2 h.symm)]
    · rw [if_neg h, if_neg fun e => h (beq_iff_eq.1 e).symm]

theorem getD_count (names : List String) (name : String) :
    ((count names).get? name).getD 0 = names.count name := by
  rw [count, getD_foldl_countOne, NameMap.get?_empty, Option.getD_none, Nat.zero_add]

/-- The callees of a remark, in its arguments and in its descriptor. -/
def calleesOf (r : Remark) : List String :=
  r.args.callee.toList ++ (r.kernel.map (·.callees)).getD []

/-- How often each function is called or inlined. -/
def calleeCounts (rs : List Remark) : NameMap Nat := count (rs.flatMap calleesOf)

def memoryAccessesOf (r : Remark) : List Kernel.MemoryAccess :=
  (r.kernel.map (·.memoryAccesses)).getD []

/-- How often each address space is accessed. -/
def memoryAccessCounts (rs : List Remark) : NameMap Nat :=
  count ((rs.flatMap memoryAccessesOf).map fun a => a.space.name)

end BuildRemarks.Query
