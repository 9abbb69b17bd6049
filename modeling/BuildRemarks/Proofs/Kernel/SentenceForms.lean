import BuildRemarks.Kernel.Sentence
import BuildRemarks.Proofs.Text.Numerals
import BuildRemarks.Proofs.Text.Runs
import BuildRemarks.Proofs.Text.Searching

/-!
# Written sentences

The forms in which sentences about kernels are written, with what each of them says. The
readers of sentences are tried in a fixed order anywhere in a text; a written sentence is read
by the reader of its own form, since the words that an earlier reader needs do not occur in it.
-/

namespace BuildRemarks.Kernel

/-- A name of characters of one kind that does not start with a digit. -/
def IsName (inName : Char → Bool) : List Char → Prop
  | [] => False
  | c :: cs => Text.isNameStart c = true ∧ ∀ d ∈ cs, inName d = true

def Bare (cs : List Char) : Prop := ∀ c ∈ cs, c ≠ '\'' ∧ Text.isBlank c = false

/-- How a call ends that names its callee. -/
def calleeText (callee : List Char) : List Char :=
  ", callee is ".toList ++ '\'' :: (callee ++ ['\''])

/-- What makes a memory access. -/
def accessWord (viaCall : Bool) : List Char :=
  (if viaCall then " call (" else " instruction (").toList

/-- How a memory access ends. -/
def spaceText (space : List Char) : List Char :=
  ") accesses memory in ".toList ++ (space ++ " address space".toList)

def accessText (instruction : List Char) (viaCall : Bool) (operand space : List Char) :
    List Char :=
  '\'' :: (instruction ++ '\'' :: (accessWord viaCall ++ '\'' ::
    (operand ++ '\'' :: spaceText space)))

/-- A sentence as it is written, the descriptor of a kernel of which it is said, and the metric
that it gives. -/
inductive Written : List Char → Descriptor → Option (String × UInt64) → Prop where
  | metric {name : List Char} (hname : IsName Text.isNameChar name) (value : UInt64) :
    Written (name ++ (" = ".toList ++ Text.numeral value.toNat))
      (Descriptor.blank.applyMetric (.ofList name) value) (some (.ofList name, value))
  | attr {name value : List Char} (hname : IsName isAttributeChar name)
    (hquote : '\'' ∉ value) (hassign : ¬ " = ".toList <:+: value) :
    Written (name ++ (" = ".toList ++ '\'' :: (value ++ ['\''])))
      (Descriptor.blank.applyAttribute (.ofList name) (.ofList value)) none
  | indirectCall : Written "indirect call".toList { indirectCalls := 1 } none
  | indirectCallOf {callee : List Char} (hne : callee ≠ []) (hcallee : Bare callee) :
    Written ("indirect call".toList ++ calleeText callee)
      { indirectCalls := 1
        attributes := NameMap.empty.insert "indirect_callee" (.ofList callee) } none
  | directCall {callee : List Char} (hne : callee ≠ []) (hcallee : Bare callee) :
    Written ("direct call".toList ++ calleeText callee)
      { directCalls := 1, callees := [.ofList callee] } none
  | access {instruction operand space : List Char} {viaCall : Bool} {type : AccessType}
    {known : AddressSpace} (hne : instruction ≠ []) (hinstruction : Bare instruction)
    (hoperand : Bare operand) (hspace_ne : space ≠ [])
    (hspace : ∀ c ∈ space, c.isAlpha = true)
    (htype : AccessType.classify? (.ofList instruction) viaCall = some type)
    (hknown : AddressSpace.ofName? (.ofList space) = some known) :
    Written (accessText instruction viaCall operand space)
      { flatAccesses := 1
        memoryAccesses := [{
          type
          space := known
          instruction := some (.ofList instruction)
          operand := if operand = [] then none else some (.ofList operand) }] } none
  | accessUnknown {instruction operand space : List Char} {viaCall : Bool}
    (hne : instruction ≠ []) (hinstruction : Bare instruction) (hoperand : Bare operand)
    (hspace_ne : space ≠ []) (hspace : ∀ c ∈ space, c.isAlpha = true)
    (hunknown : AccessType.classify? (.ofList instruction) viaCall = none ∨
      AddressSpace.ofName? (.ofList space) = none) :
    Written (accessText instruction viaCall operand space)
      { flatAccesses := 1
        attributes := (NameMap.empty.insert "access_instruction" (.ofList instruction)).insert
          "access_address_space" (.ofList space) } none

/-! ### Characters of names -/

theorem toNat_of_isAlpha {c : Char} (h : c.isAlpha = true) :
    (65 ≤ c.toNat ∧ c.toNat ≤ 90) ∨ (97 ≤ c.toNat ∧ c.toNat ≤ 122) := by
  have hranges : (decide (c.val ≥ 65 ∧ c.val ≤ 90) ||
      decide (c.val ≥ 97) && decide (c.val ≤ 122)) = true := h
  simp only [Bool.or_eq_true, Bool.and_eq_true, decide_eq_true_eq, ge_iff_le,
    UInt32.le_iff_toNat_le] at hranges
  exact hranges

theorem isBlank_of_isNameStart {c : Char} (h : Text.isNameStart c = true) :
    Text.isBlank c = false := by
  rw [Text.isNameStart, Bool.or_eq_true] at h
  rcases h with h | h
  · have hc := toNat_of_isAlpha h
    exact Text.isBlank_of_visible (by omega) (by omega)
  · rw [beq_iff_eq.1 h]
    decide

theorem IsName.notMem {inName : Char → Bool} {name : List Char} {c : Char}
    (h : IsName inName name) (hstart : Text.isNameStart c = false) (hin : inName c = false) :
    c ∉ name := by
  intro hc
  cases name with
  | nil => exact h
  | cons d ds =>
    rcases List.mem_cons.1 hc with rfl | hc
    · exact absurd h.1 (by simp [hstart])
    · exact absurd (h.2 c hc) (by simp [hin])

theorem Bare.space_notMem {cs : List Char} (h : Bare cs) : ' ' ∉ cs := fun hc =>
  absurd (h ' ' hc).2 (by decide)

theorem Bare.quote_notMem {cs : List Char} (h : Bare cs) : '\'' ∉ cs := fun hc =>
  (h '\'' hc).1 rfl

theorem notMem_of_isAlpha {cs : List Char} (h : ∀ c ∈ cs, c.isAlpha = true) {c : Char}
    (hc : c.isAlpha = false) : c ∉ cs := fun hmem =>
  absurd (h c hmem) (by simp [hc])

end BuildRemarks.Kernel
