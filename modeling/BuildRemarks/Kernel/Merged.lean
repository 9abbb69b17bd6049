import BuildRemarks.Remark.Basic

/-!
# Merged descriptors

The descriptors of the remarks about one kernel, folded into one (specification, §3 and
§G.2).
-/

namespace BuildRemarks.Kernel

/-- The kernel that a remark describes and what it says: only kernel remarks with a
function and a descriptor say something. -/
def contribution? (r : Remark) : Option (String × Descriptor) :=
  match r.kernel with
  | some d => if r.kind = .kernel ∧ r.function ≠ "" then some (r.function, d) else none
  | none => none

def addContribution (kernels : NameMap Descriptor) (c : String × Descriptor) :
    NameMap Descriptor :=
  kernels.alter c.1 fun d => (d.getD .blank).merge c.2

/-- The descriptor of every kernel that the remarks describe. -/
def mergeByFunction (remarks : List Remark) : NameMap Descriptor :=
  (remarks.filterMap contribution?).foldl addContribution .empty

end BuildRemarks.Kernel
