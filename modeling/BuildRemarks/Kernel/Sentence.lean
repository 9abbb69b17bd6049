import BuildRemarks.Kernel.Descriptor
import BuildRemarks.Text.DecimalDigit

/-!
# Sentences about kernels

A line about a kernel says one thing about it: a metric, an attribute, a call or a memory
access (specification, §4.3, step 2, and §G.3). Of several things that could be made out
in a line the first of this order counts. `Sentence.describe` gives the descriptor that a
sentence amounts to.
-/

namespace BuildRemarks.Kernel

inductive Sentence where
  /-- `name = 5` -/
  | metric (name : String) (value : UInt64)
  /-- `name = 'text'` -/
  | attr (name value : String)
  /-- `indirect call`, with the callee if it is given -/
  | indirectCall (callee : Option String)
  /-- `direct call, callee is 'f'` -/
  | directCall (callee : String)
  /-- `'load' instruction ('%p') accesses memory in flat address space` -/
  | access (instruction : String) (viaCall : Bool) (operand space : String)
  deriving DecidableEq

def isAttributeChar (c : Char) : Bool := Text.isWordChar c || c == '.' || c == '-'

/-- A name of characters of one kind that does not start with a digit, and the rest. -/
def name? (inName : Char → Bool) : List Char → Option (List Char × List Char)
  | [] => none
  | c :: cs =>
    if Text.isNameStart c then
      let (more, rest) := Text.takeRun inName cs
      some (c :: more, rest)
    else none

def startsWord : List Char → Bool
  | [] => false
  | c :: _ => Text.isWordChar c

/-- Name and digits of a metric, `\b([A-Za-z_][A-Za-z0-9_]*) = (\d+)\b`. The digits may be those
of any script. -/
def metricHere? (cs : List Char) : Option (List Char × List Char) := do
  let (name, cs) ← name? Text.isNameChar cs
  let cs ← Text.after? " = " cs
  let (digits, rest) := Text.takeRun Text.isDecimalDigit cs
  if digits.isEmpty || startsWord rest then none else some (name, digits)

/-- The first metric of a text, if its value fits a word. -/
def metric? (cs : List Char) : Option Sentence := do
  let (name, digits) ← Text.firstMatchAtWord metricHere? false cs
  let value ← Text.readUInt64? digits
  pure (.metric (.ofList name) value)

/-- Name and text of an attribute, `\b([A-Za-z_][\w.-]*) = '([^']*)'`. -/
def attributeHere? (cs : List Char) : Option (List Char × List Char) := do
  let (name, cs) ← name? isAttributeChar cs
  let cs ← Text.after? " = '" cs
  match Text.takeRun (· != '\'') cs with
  | (_, []) => none
  | (value, _) => some (name, value)

def attribute? (cs : List Char) : Option Sentence :=
  (Text.firstMatchAtWord attributeHere? false cs).map fun (name, value) =>
    .attr (.ofList name) (.ofList value)

def callee? (cs : List Char) : Option (List Char) := do
  let cs ← Text.after? ", callee is '" cs
  let (callee, _) ← Text.runTo? '\'' cs
  pure callee

/-- An indirect call, `\bindirect call(?:, callee is '([^']+)')?`, with its callee if that is
given. -/
def indirectHere? (cs : List Char) : Option (Option (List Char)) :=
  (Text.after? "indirect call" cs).map callee?

def indirectCall? (cs : List Char) : Option Sentence :=
  (Text.firstMatchAtWord indirectHere? false cs).map fun callee =>
    .indirectCall (callee.map String.ofList)

/-- The callee of a direct call, `\bdirect call, callee is '([^']+)'`. -/
def directHere? (cs : List Char) : Option (List Char) :=
  (Text.after? "direct call" cs).bind callee?

def directCall? (cs : List Char) : Option Sentence :=
  (Text.firstMatchAtWord directHere? false cs).map fun callee =>
    .directCall (.ofList callee)

def space? (cs : List Char) : Option (List Char) := do
  let cs := (Text.after? "'" cs).getD cs
  let cs ← Text.after? ") accesses memory in " cs
  let (space, cs) := Text.takeRun Char.isAlpha cs
  let _ ← Text.after? " address space" cs
  if space.isEmpty then none else some space

def operand? : List Char → Option (List Char × List Char)
  | [] => (space? []).map fun space => ([], space)
  | c :: cs =>
    match space? (c :: cs) with
    | some space => some ([], space)
    | none =>
      if c = '\'' then none else (operand? cs).map fun (operand, space) => (c :: operand, space)

structure AccessParts where
  instruction : List Char
  viaCall : Bool
  operand : List Char
  space : List Char

/-- A memory access, `'([^']+)' (instruction|call) \('?([^']*?)'?\)` followed by
`accesses memory in ([A-Za-z]+) address space`. -/
def accessHere? (cs : List Char) : Option AccessParts := do
  let cs ← Text.after? "'" cs
  let (instruction, cs) ← Text.runTo? '\'' cs
  let (viaCall, cs) ←
    match Text.after? " instruction (" cs with
    | some cs => some (false, cs)
    | none => (Text.after? " call (" cs).map fun cs => (true, cs)
  let (operand, space) ← operand? ((Text.after? "'" cs).getD cs)
  pure ⟨instruction, viaCall, operand, space⟩

def access? (cs : List Char) : Option Sentence :=
  (Text.firstMatch accessHere? cs).map fun parts =>
    .access (.ofList parts.instruction) parts.viaCall (.ofList parts.operand)
      (.ofList parts.space)

namespace Sentence

def ofText? (cs : List Char) : Option Sentence :=
  metric? cs <|> attribute? cs <|> indirectCall? cs <|> directCall? cs <|> access? cs

/-- The descriptor of a memory access. One whose instruction or address space is not
known is counted, and its names are kept as attributes. -/
def describeAccess (instruction : String) (viaCall : Bool) (operand space : String) :
    Descriptor :=
  match AccessType.classify? instruction viaCall, AddressSpace.ofName? space with
  | some type, some space =>
    let operand := Text.trimmed operand
    let operand := if operand.isEmpty then none else some operand
    { flatAccesses := 1
      memoryAccesses := [{ type, space, instruction := some instruction, operand }] }
  | _, _ =>
    { flatAccesses := 1
      attributes := NameMap.empty.insert "access_instruction" instruction
        |>.insert "access_address_space" space }

def describe : Sentence → Descriptor
  | metric name value => Descriptor.blank.applyMetric name value
  | attr name value => Descriptor.blank.applyAttribute name value
  | indirectCall none => { indirectCalls := 1 }
  | indirectCall (some callee) =>
    { indirectCalls := 1, attributes := NameMap.empty.insert "indirect_callee" callee }
  | directCall callee => { directCalls := 1, callees := [callee] }
  | access instruction viaCall operand space =>
    describeAccess instruction viaCall operand space

def metric? : Sentence → Option (String × UInt64)
  | metric name value => some (name, value)
  | _ => none

end Sentence

end BuildRemarks.Kernel
