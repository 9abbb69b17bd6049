import BuildRemarks.Kernel.Scan
import BuildRemarks.Printed.Parse
import BuildRemarks.Record.Parse

/-!
# Grammars

The grammars in which compilers report remarks (specification, §4.1 to §4.3).
-/

namespace BuildRemarks

inductive Grammar where
  | printed
  | kernel
  | records
  deriving DecidableEq

def Grammar.name : Grammar → String
  | printed => "text-remarks"
  | kernel => "kernel-info"
  | records => "optimization-records"

def Grammar.parse : Grammar → Text.Bytes → Except Failure (List Remark)
  | printed => Printed.parse
  | kernel => Kernel.parse
  | records => Record.parse

end BuildRemarks
