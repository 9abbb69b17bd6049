import BuildRemarks.Remark.Basic

/-!
# Metric totals

The totals of a scan are the values that its metrics had last. They are reported as one
metric remark each, in the order of their names (specification, §4.3 and §H).
-/

namespace BuildRemarks.Kernel

/-- The last value of every metric of a scan. -/
structure Totals where
  metrics : NameMap UInt64 := .empty
  deriving DecidableEq

namespace Totals

def none : Totals := {}

/-- Records a metric over its earlier value. -/
def record (t : Totals) (name : String) (value : UInt64) : Totals :=
  ⟨t.metrics.insert name value⟩

def get? (t : Totals) (name : String) : Option UInt64 := t.metrics.get? name

def size (t : Totals) : Nat := t.metrics.size

def isEmpty (t : Totals) : Bool := t.metrics.isEmpty

def remark (name : String) (value : UInt64) : Remark :=
  { Remark.plain .metric .kernelInfo .analysis name with
    metadata := NameMap.empty.insert "value" (.word value) }

def remarks (t : Totals) : List Remark := t.metrics.entries.map fun e => remark e.1 e.2

end Totals

end BuildRemarks.Kernel
