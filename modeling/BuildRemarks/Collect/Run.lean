import BuildRemarks.Analysis.Analyze
import BuildRemarks.Collect.Config
import BuildRemarks.Kernel.Scan
import BuildRemarks.Printed.Parse
import BuildRemarks.Record.Parse

/-!
# Collecting remarks

The output and the records of one run of a compiler are read by the grammars that the
configuration switches on: first the printed remarks, then the kernel remarks, then the
records (specification, §G.7). The first failure is the result.
-/

namespace BuildRemarks.Collect

structure Run where
  arguments : List String
  output : Text.Bytes
  /-- The records it wrote, if it wrote any. -/
  records : Option Text.Bytes

/-- The remarks of a part that may be switched off. -/
def part (enabled : Bool) (remarks : Except Failure (List Remark)) :
    Except Failure (List Remark) :=
  if enabled then remarks else .ok []

def collect (config : Config) (run : Run) : Except Failure (List Remark) := do
  let printed ← part config.text (Printed.parse run.output)
  let kernel ← part (config.kernelEnabled run.arguments) (Kernel.parse run.output)
  let records ←
    match run.records with
    | some stream => part config.records (Record.parse stream)
    | none => .ok []
  pure (printed ++ kernel ++ records)

/-- Collects the remarks of a run and attaches them to a build: their number and the
build. -/
def attach (config : Config) (build : Build.Record) (run : Run) :
    Except Failure (Nat × Build.Record) := do
  let remarks ← collect config run
  pure (remarks.length, build.attach remarks)

def analyze? (config : Config) (build : Build.Record) : Option Analysis.Result :=
  if config.analysis then some (Analysis.analyze build) else none

end BuildRemarks.Collect
