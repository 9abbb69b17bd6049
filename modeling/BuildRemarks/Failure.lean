import BuildRemarks.Json.Flaw

/-!
# Failures

Why a stream, a document or a configuration could not be taken in (specification, §7 and
§B).
-/

namespace BuildRemarks

inductive FileFault where
  | missing
  | directory
  /-- A part of its path is no directory. -/
  | noDirectory
  deriving DecidableEq

def FileFault.message : FileFault → String
  | missing => "No such file or directory (os error 2)"
  | directory => "Is a directory (os error 21)"
  | noDirectory => "Not a directory (os error 20)"

/-- Why an input could not be taken in. -/
inductive Failure where
  | encoding
  | recordStream
  | file (path : String) (fault : FileFault)
  | json (flaw : Json.Flaw)

def Failure.message : Failure → String
  | encoding => "IO error: stream did not contain valid UTF-8"
  | recordStream => "Failed to read optimization record stream"
  | file path fault => "Invalid configuration: " ++ path ++ ": " ++ fault.message
  | json flaw => "JSON serialization error: " ++ flaw.message

end BuildRemarks
