import BuildRemarks.Failure
import BuildRemarks.Json.Reader
import BuildRemarks.Text.Search

/-!
# Configuration

A configuration says which grammars are collected and whether builds are analysed
(specification, §D). Whatever it does not mention is switched on.
-/

namespace BuildRemarks.Collect

open Json

structure Config where
  text : Bool := true
  records : Bool := true
  kernel : Bool := true
  analysis : Bool := true
  deriving DecidableEq

/-- What the compiler argument contains that asks for kernel remarks. -/
def kernelFlag : String := "Rpass=kernel-info"

inductive PathEntry where
  | missing
  | directory
  /-- A part of the path other than the last is a file. -/
  | behindFile
  | file (content : String)

abbrev Files := String → PathEntry

/-- The files of a host on which no configuration has been written: the root directory
and the empty device. -/
def bareFiles : Files := fun path =>
  if path = "/" then .directory
  else if path = "/dev/null" then .file ""
  else if "/dev/null/".toList.isPrefixOf path.toList then .behindFile
  else .missing

namespace Config

def schema : Schema Config where
  title := "CollectionConfig"
  start := {}
  lenient := true
  fields :=
    [.may "collect_text_remarks" .bool fun c v => { c with text := v },
      .may "collect_optimization_records" .bool fun c v => { c with records := v },
      .may "collect_kernel_info" .bool fun c v => { c with kernel := v },
      .may "analyze_performance" .bool fun c v => { c with analysis := v }]

def form (c : Config) : Value :=
  .object
    [("collect_text_remarks", .bool c.text),
      ("collect_optimization_records", .bool c.records),
      ("collect_kernel_info", .bool c.kernel),
      ("analyze_performance", .bool c.analysis)]

def readText (text : String) : Except Failure Config :=
  (schema.read.text text).mapError .json

def load (files : Files) (path : String) : Except Failure Config :=
  match files path with
  | .missing => .error (.file path .missing)
  | .directory => .error (.file path .directory)
  | .behindFile => .error (.file path .noDirectory)
  | .file content => readText content

/-- Kernel remarks are collected: they are switched on, and the compiler was asked for
them. -/
def kernelEnabled (c : Config) (arguments : List String) : Bool :=
  c.kernel && arguments.any fun a => Text.holds a kernelFlag

end Config

end BuildRemarks.Collect
