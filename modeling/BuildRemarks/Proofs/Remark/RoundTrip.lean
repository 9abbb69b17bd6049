import BuildRemarks.Proofs.Json.PrintedText
import BuildRemarks.Remark.Form

/-!
# Remarks that are read back

Each part of a remark is read back from its JSON form, and so is the remark. What is nested in a
part adds to the depth of its form.
-/

namespace BuildRemarks

open Json

variable {n : Nat}

/-! ### Optional parts -/

namespace Json.Represents

theorem optionalString (o : Option String) :
    Represents (.option .string) n (.option .string o) o :=
  option (fun _ h => nomatch h) fun a _ => string a

theorem optionalHalfWord (o : Option UInt32) :
    Represents (.option .uint32) n (.option .halfWord o) o :=
  option (fun _ h => nomatch h) fun a _ => halfWord a

end Json.Represents

/-! ### Places -/

theorem Location.represents_form (l : Location) : Represents Location.read (n + 1) l.form l :=
  .schema (by decide) <|
    .field (.optionalString l.file) <|
    .field (.optionalHalfWord l.line) <|
    .field (.optionalHalfWord l.column) <|
    .field (.optionalString l.function) <|
    .field (.optionalString l.region) <|
    .nil l

theorem Json.Represents.optionalLocation (o : Option Location) :
    Represents (.option Location.read) (n + 1) (.option Location.form o) o :=
  option (fun _ h => nomatch h) fun l _ => l.represents_form

/-! ### Kernels -/

namespace Kernel

theorem AccessType.represents_form (a : AccessType) : Represents AccessType.read n a.form a :=
  .named a.lookup_name

theorem AddressSpace.represents_form (a : AddressSpace) :
    Represents AddressSpace.read n a.form a :=
  .named a.lookup_name

theorem MemoryAccess.represents_form (a : MemoryAccess) :
    Represents MemoryAccess.read (n + 2) a.form a :=
  .schema (by decide) <|
    .field a.type.represents_form <|
    .field a.space.represents_form <|
    .field (.optionalString a.instruction) <|
    .field (.optionalString a.operand) <|
    .field (.optionalString a.pattern) <|
    .field (.optionalLocation a.location) <|
    .nil a

theorem BasicBlock.represents_form (b : BasicBlock) :
    Represents BasicBlock.read (n + 2) b.form b :=
  .schema (by decide) <|
    .field (.string b.name) <|
    .field (.halfWord b.instructions) <|
    .field (.optionalLocation b.location) <|
    .nil b

theorem Descriptor.represents_form (d : Descriptor) :
    Represents Descriptor.read (n + 4) d.form d :=
  .schema (by decide) <|
    .field (.halfWord d.threadLimit) <|
    .field (.halfWord d.maxThreadsX) <|
    .field (.halfWord d.maxThreadsY) <|
    .field (.halfWord d.maxThreadsZ) <|
    .field (.word d.sharedMemory) <|
    .field (.optionalString d.target) <|
    .field (.halfWord d.directCalls) <|
    .field (.halfWord d.indirectCalls) <|
    .field (.list fun callee _ => .string callee) <|
    .field (.halfWord d.allocas) <|
    .field (.word d.allocasStaticSize) <|
    .field (.halfWord d.allocasDynamic) <|
    .field (.halfWord d.flatAccesses) <|
    .field (.halfWord d.inlineAssemblyCalls) <|
    .field (.word d.stackBytes) <|
    .field (.halfWord d.instructions) <|
    .field (.list fun access _ => access.represents_form) <|
    .field (.list fun block _ => block.represents_form) <|
    .field (.map fun entry _ => .word entry.2) <|
    .field (.map fun entry _ => .string entry.2) <|
    .nil d

end Kernel

/-! ### Remarks -/

namespace Remark

theorem Kind.represents_form (k : Kind) : Represents Kind.read n k.form k := .named k.lookup_name

theorem Pass.represents_form (p : Pass) : Represents Pass.read n p.form p := .named p.lookup_name

theorem Status.represents_form (s : Status) : Represents Status.read n s.form s :=
  .named s.lookup_name

theorem Access.represents_form (a : Access) : Represents Access.read (n + 2) a.form a :=
  .schema (by decide) <|
    .field (.optionalString a.type) <|
    .field (.optionalLocation a.location) <|
    .nil a

theorem represents_optionalAccess (o : Option Access) :
    Represents (.option Access.read) (n + 2) (.option Access.form o) o :=
  .option (fun _ h => nomatch h) fun a _ => a.represents_form

theorem Args.represents_form (a : Args) : Represents Args.read (n + 3) a.form a :=
  .schema (by decide) <|
    .field (.list fun text _ => .string text) <|
    .field (.optionalString a.callee) <|
    .field (.optionalString a.caller) <|
    .field (.optionalString a.valueType) <|
    .field (.optionalString a.line) <|
    .field (.optionalString a.column) <|
    .field (.optionalString a.cost) <|
    .field (.optionalString a.reason) <|
    .field (.optionalLocation a.location) <|
    .field (represents_optionalAccess a.otherAccess) <|
    .field (represents_optionalAccess a.clobberedBy) <|
    .field (.map fun entry _ => .string entry.2) <|
    .nil a

theorem Timestamp.ext_parts {t u : Timestamp} (hseconds : t.seconds = u.seconds)
    (hnanos : t.nanos = u.nanos) : t = u := by
  cases t
  cases u
  cases hseconds
  cases hnanos
  rfl

/-- The nanoseconds of a point in time make up no whole second. -/
theorem Timestamp.timestamp_parts (t : Timestamp) :
    (Parts.checked ⟨.ofNat t.seconds, .ofNat t.nanos⟩ >>= Parts.timestamp) = .ok t := by
  have hseconds : (UInt64.ofNat t.seconds).toNat = t.seconds :=
    UInt64.toNat_ofNat_of_lt' (Nat.lt_trans t.seconds_lt (by decide))
  have hnanos : (UInt32.ofNat t.nanos).toNat = t.nanos :=
    UInt32.toNat_ofNat_of_lt' (Nat.lt_trans t.nanos_lt (by decide))
  have hwhole : Parts.wholeSeconds ⟨.ofNat t.seconds, .ofNat t.nanos⟩ = t.seconds := by
    rw [Parts.wholeSeconds, hseconds, hnanos, Nat.div_eq_of_lt t.nanos_lt, Nat.add_zero]
  have hword : Parts.wholeSeconds ⟨.ofNat t.seconds, .ofNat t.nanos⟩ < UInt64.size := by
    rw [hwhole]
    exact Nat.lt_trans t.seconds_lt (by decide)
  have hbound : Parts.wholeSeconds ⟨.ofNat t.seconds, .ofNat t.nanos⟩ < secondsBound := by
    rw [hwhole]
    exact t.seconds_lt
  have hpart : (UInt32.ofNat t.nanos).toNat % nanosPerSecond = t.nanos := by
    rw [hnanos, Nat.mod_eq_of_lt t.nanos_lt]
  simp only [Parts.checked, if_pos hword, bind, Except.bind, Parts.timestamp, dif_pos hbound]
  exact congrArg Except.ok (ext_parts hwhole hpart)

theorem Timestamp.readMembers_seconds {s : Source} {w : UInt64} (nanos : Option UInt32)
    (rest : List (Except Flaw String × Source)) (h : Reader.uint64 s = .ok w) :
    readMembers none nanos ((.ok "secs_since_epoch", s) :: rest) =
      readMembers (some w) nanos rest := by
  show (Reader.uint64 s >>= fun v => readMembers (some v) nanos rest) = _
  rw [h]
  rfl

theorem Timestamp.readMembers_nanos {s : Source} {w : UInt32} (seconds : Option UInt64)
    (rest : List (Except Flaw String × Source)) (h : Reader.uint32 s = .ok w) :
    readMembers seconds none ((.ok "nanos_since_epoch", s) :: rest) =
      readMembers seconds (some w) rest := by
  show (Reader.uint32 s >>= fun v => readMembers seconds (some v) rest) = _
  rw [h]
  rfl

theorem Timestamp.represents_form (t : Timestamp) :
    Represents Timestamp.read (n + 1) t.form t := by
  have hseconds : Represents .uint64 n (.word (.ofNat t.seconds)) (.ofNat t.seconds) := .word _
  have hnanos : Represents .uint32 n (.halfWord (.ofNat t.nanos)) (.ofNat t.nanos) := .halfWord _
  have hfits : ∀ m ∈ [("secs_since_epoch", Value.word (.ofNat t.seconds)),
      ("nanos_since_epoch", Value.halfWord (.ofNat t.nanos))], Fits n m.2 := by
    intro m hm
    rcases List.mem_cons.1 hm with rfl | hm
    · exact hseconds.fits
    · obtain rfl := List.mem_singleton.1 hm
      exact hnanos.fits
  refine ⟨.object hfits, ?_⟩
  rw [form, Source.ofValue, read, Source.ofMembers, Source.ofMembers, Source.ofMembers,
    readMembers_seconds none _ hseconds.read_eq, readMembers_nanos _ [] hnanos.read_eq]
  exact t.timestamp_parts

/-- What stands among the metadata is neither nested nor a floating-point number. -/
def ScalarMetadata (r : Remark) : Prop := ∀ e ∈ r.metadata.entries, e.2.Scalar

theorem represents_form {r : Remark} (h : r.ScalarMetadata) :
    Represents Remark.read (n + 5) r.form r :=
  .schema (by decide) <|
    .field (.string r.id) <|
    .field r.kind.represents_form <|
    .field r.pass.represents_form <|
    .field r.status.represents_form <|
    .field (.string r.message) <|
    .field (.string r.function) <|
    .field (.optionalLocation r.location) <|
    .field r.args.represents_form <|
    .field (.option (fun _ h => nomatch h) fun d _ => d.represents_form) <|
    .field (.map fun e he => (h e he).represents) <|
    .field (.option (fun _ h => nomatch h) fun w _ => .signedWord w) <|
    .field r.timestamp.represents_form <|
    .nil r

/-- A remark is read back from its JSON text. -/
theorem text_print_form {r : Remark} (h : r.ScalarMetadata) :
    Reader.text Remark.read r.form.print = .ok r :=
  (represents_form h).text_print (show 0 + 5 < depthLimit by decide)

/-- A remark with words at the ends of their ranges and characters that are escaped. -/
def crowdedRemark : Remark where
  id := "r\x01\"\\"
  kind := .kernel
  pass := .kernelInfo
  status := .analysis
  message := "größer\n\t\x08\x0c\r\x7f"
  function := ""
  location := some { file := some "a.c", line := some 0xFFFFFFFF, region := some "" }
  args :=
    { strings := ["", "x"]
      valueType := some "i32"
      otherAccess := some { type := some "load", location := some .unknown }
      values := ⟨[("", "1"), ("b", "")], by decide⟩ }
  kernel := some
    { threadLimit := 0xFFFFFFFF
      sharedMemory := 0xFFFFFFFFFFFFFFFF
      target := some "gfx"
      callees := ["f", "f"]
      memoryAccesses := [{ type := .atomic, space := .shared, location := some .unknown }]
      basicBlocks := [⟨"entry", 7, none⟩]
      metrics := ⟨[("n", 0xFFFFFFFFFFFFFFFF)], by decide⟩
      attributes := ⟨[("target", "gfx")], by decide⟩ }
  metadata := ⟨[("a", .null), ("b", .bool true), ("c", .integer (.ofInt64 Int64.minValue)),
    ("d", .word 0xFFFFFFFFFFFFFFFF), ("e", .string "\x1f")], by decide⟩
  hotness := some (-1)
  timestamp := { seconds := 0x7FFFFFFFFFFFFFFF, nanos := 999999999 }

theorem text_print_crowdedRemark :
    crowdedRemark.ScalarMetadata ∧
      Reader.text Remark.read crowdedRemark.form.print = .ok crowdedRemark := by
  have hscalar : crowdedRemark.ScalarMetadata := by
    intro e he
    simp only [crowdedRemark, List.mem_cons, List.not_mem_nil, or_false] at he
    obtain rfl | rfl | rfl | rfl | rfl := he
    · exact .null
    · exact .bool true
    · exact .integer _
    · exact .integer _
    · exact .string _
  exact ⟨hscalar, text_print_form hscalar⟩

end Remark

end BuildRemarks
