import BuildRemarks.Text.Search

/-!
# Inlining sentences

`'<callee>' inlined into '<caller>' with (<parameters>): <reason> at callsite <place>;`
says that one function was inlined into another (specification, §4.1). The first such
sentence of a message counts. The reason ends at the first call site behind it that a
semicolon closes.
-/

namespace BuildRemarks.Printed

structure Inlining where
  callee : List Char
  caller : List Char
  parameters : List Char
  reason : List Char
  callsite : List Char

def callsite? (cs : List Char) : Option (List Char) := do
  let cs ← Text.after? " at callsite " cs
  let (callsite, _) ← Text.runTo? ';' cs
  pure callsite

/-- The reason and the call site behind it. -/
def reason? : List Char → Option (List Char × List Char)
  | [] => none
  | c :: cs =>
    match callsite? (c :: cs) with
    | some callsite => some ([], callsite)
    | none => if c = '\n' then none else (reason? cs).map fun p => (c :: p.1, p.2)

/-- An inlining sentence,
`'([^']+)' (inlined into) '([^']+)' with \(([^)]+)\):(.*?) at callsite ([^;]+);`. -/
def inliningHere? (cs : List Char) : Option Inlining := do
  let cs ← Text.after? "'" cs
  let (callee, cs) ← Text.runTo? '\'' cs
  let cs ← Text.after? " inlined into '" cs
  let (caller, cs) ← Text.runTo? '\'' cs
  let cs ← Text.after? " with (" cs
  let (parameters, cs) ← Text.runTo? ')' cs
  let cs ← Text.after? ":" cs
  let (reason, callsite) ← reason? cs
  pure ⟨callee, caller, parameters, reason, callsite⟩

/-- The first inlining sentence of a message. -/
def Inlining.ofMessage? (message : List Char) : Option Inlining :=
  Text.firstMatch inliningHere? message

end BuildRemarks.Printed
