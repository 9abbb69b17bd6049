import BuildRemarks.Location

/-!
# Memory accesses of a kernel

A memory access is classified by the instruction that makes it and by the address space it
goes to (specification, §3). Names of instructions and address spaces are compared without
regard to the case of ASCII letters.
-/

namespace BuildRemarks.Kernel

inductive AccessType where
  | load
  | store
  | atomic
  | call
  deriving DecidableEq

namespace AccessType

def named : List (String × AccessType) :=
  [("load", load), ("store", store), ("atomic", atomic), ("call", call)]

def name : AccessType → String
  | load => "load"
  | store => "store"
  | atomic => "atomic"
  | call => "call"

theorem lookup_name (a : AccessType) : named.lookup a.name = some a := by
  cases a <;> decide

def instructions : List (String × AccessType) :=
  [("load", load), ("store", store), ("atomicrmw", atomic), ("cmpxchg", atomic),
    ("atomic", atomic), ("call", call), ("invoke", call)]

/-- The kind of an instruction. Whatever a call reaches is of kind `call`. -/
def classify? (instruction : String) (viaCall : Bool) : Option AccessType :=
  if viaCall then some call else instructions.lookup instruction.toLower

end AccessType

inductive AddressSpace where
  | flat
  | shared
  | global
  deriving DecidableEq

namespace AddressSpace

def named : List (String × AddressSpace) :=
  [("flat", flat), ("shared", shared), ("global", global)]

def name : AddressSpace → String
  | flat => "flat"
  | shared => "shared"
  | global => "global"

theorem lookup_name (a : AddressSpace) : named.lookup a.name = some a := by
  cases a <;> decide

/-- The names under which compilers report address spaces. -/
def reported : List (String × AddressSpace) :=
  [("flat", flat), ("generic", flat), ("shared", shared), ("local", shared),
    ("global", global)]

def ofName? (name : String) : Option AddressSpace := reported.lookup name.toLower

end AddressSpace

structure MemoryAccess where
  type : AccessType
  space : AddressSpace
  instruction : Option String := none
  operand : Option String := none
  pattern : Option String := none
  location : Option Location := none
  deriving DecidableEq

structure BasicBlock where
  name : String
  instructions : UInt32
  location : Option Location
  deriving DecidableEq

end BuildRemarks.Kernel
