import BuildRemarks.Kernel.Descriptor
import BuildRemarks.Location.Form

/-!
# Kernel descriptors in JSON
-/

namespace BuildRemarks.Kernel

open Json

def AccessType.read : Reader AccessType := .variant named

def AddressSpace.read : Reader AddressSpace := .variant named

def AccessType.form (a : AccessType) : Value := .string a.name

def AddressSpace.form (a : AddressSpace) : Value := .string a.name

def MemoryAccess.schema : Schema MemoryAccess where
  title := "MemoryAccess"
  start := { type := .load, space := .flat }
  lenient := false
  fields :=
    [.must "type" AccessType.read fun a v => { a with type := v },
      .must "address_space" AddressSpace.read fun a v => { a with space := v },
      .may "instruction" (.option .string) fun a v => { a with instruction := v },
      .may "variable" (.option .string) fun a v => { a with operand := v },
      .may "access_pattern" (.option .string) fun a v => { a with pattern := v },
      .may "location" (.option Location.read) fun a v => { a with location := v }]

def MemoryAccess.read : Reader MemoryAccess := schema.read

def MemoryAccess.form (a : MemoryAccess) : Value :=
  .object
    [("type", a.type.form),
      ("address_space", a.space.form),
      ("instruction", .option .string a.instruction),
      ("variable", .option .string a.operand),
      ("access_pattern", .option .string a.pattern),
      ("location", .option Location.form a.location)]

def BasicBlock.schema : Schema BasicBlock where
  title := "BasicBlock"
  start := ⟨"", 0, none⟩
  lenient := false
  fields :=
    [.must "name" .string fun b v => { b with name := v },
      .must "instructions" .uint32 fun b v => { b with instructions := v },
      .may "location" (.option Location.read) fun b v => { b with location := v }]

def BasicBlock.read : Reader BasicBlock := schema.read

def BasicBlock.form (b : BasicBlock) : Value :=
  .object
    [("name", .string b.name),
      ("instructions", .halfWord b.instructions),
      ("location", .option Location.form b.location)]

namespace Descriptor

def schema : Schema Descriptor where
  title := "KernelInfo"
  start := .blank
  lenient := false
  fields :=
    [.must "thread_limit" .uint32 fun d v => { d with threadLimit := v },
      .must "max_threads_x" .uint32 fun d v => { d with maxThreadsX := v },
      .must "max_threads_y" .uint32 fun d v => { d with maxThreadsY := v },
      .must "max_threads_z" .uint32 fun d v => { d with maxThreadsZ := v },
      .must "shared_memory" .uint64 fun d v => { d with sharedMemory := v },
      .may "target" (.option .string) fun d v => { d with target := v },
      .must "direct_calls" .uint32 fun d v => { d with directCalls := v },
      .must "indirect_calls" .uint32 fun d v => { d with indirectCalls := v },
      .must "callees" (.list .string) fun d v => { d with callees := v },
      .must "allocas_count" .uint32 fun d v => { d with allocas := v },
      .must "allocas_static_size" .uint64 fun d v => { d with allocasStaticSize := v },
      .must "allocas_dynamic_count" .uint32 fun d v => { d with allocasDynamic := v },
      .must "flat_address_space_accesses" .uint32 fun d v => { d with flatAccesses := v },
      .must "inline_assembly_calls" .uint32 fun d v => { d with inlineAssemblyCalls := v },
      .must "num_stack_bytes" .uint64 fun d v => { d with stackBytes := v },
      .must "num_instructions" .uint32 fun d v => { d with instructions := v },
      .must "memory_accesses" (.list MemoryAccess.read) fun d v =>
        { d with memoryAccesses := v },
      .must "basic_blocks" (.list BasicBlock.read) fun d v => { d with basicBlocks := v },
      .must "metrics" (.map .uint64) fun d v => { d with metrics := v },
      .must "attributes" (.map .string) fun d v => { d with attributes := v }]

def read : Reader Descriptor := schema.read

def form (d : Descriptor) : Value :=
  .object
    [("thread_limit", .halfWord d.threadLimit),
      ("max_threads_x", .halfWord d.maxThreadsX),
      ("max_threads_y", .halfWord d.maxThreadsY),
      ("max_threads_z", .halfWord d.maxThreadsZ),
      ("shared_memory", .word d.sharedMemory),
      ("target", .option .string d.target),
      ("direct_calls", .halfWord d.directCalls),
      ("indirect_calls", .halfWord d.indirectCalls),
      ("callees", .list .string d.callees),
      ("allocas_count", .halfWord d.allocas),
      ("allocas_static_size", .word d.allocasStaticSize),
      ("allocas_dynamic_count", .halfWord d.allocasDynamic),
      ("flat_address_space_accesses", .halfWord d.flatAccesses),
      ("inline_assembly_calls", .halfWord d.inlineAssemblyCalls),
      ("num_stack_bytes", .word d.stackBytes),
      ("num_instructions", .halfWord d.instructions),
      ("memory_accesses", .list MemoryAccess.form d.memoryAccesses),
      ("basic_blocks", .list BasicBlock.form d.basicBlocks),
      ("metrics", .ofMap .word d.metrics),
      ("attributes", .ofMap .string d.attributes)]

end Descriptor

end BuildRemarks.Kernel
