import BuildRemarks.Proofs.Kernel.SentenceForms

/-!
# Reading written sentences

What each reader needs to find in a text, and that every written sentence is read as what it
was written for.
-/

namespace BuildRemarks.Kernel

/-! ### What the readers need -/

theorem append_of_name? {inName : Char → Bool} {cs name rest : List Char}
    (h : name? inName cs = some (name, rest)) : cs = name ++ rest := by
  cases cs with
  | nil => exact absurd h (by simp [name?])
  | cons c cs =>
    rw [name?] at h
    split at h
    · obtain ⟨rfl, rfl⟩ := Prod.mk.inj (Option.some.inj h)
      exact congrArg (c :: ·) (Text.takeRun_append inName cs).symm
    · exact absurd h (by simp)

theorem needs_of_metricHere? {cs : List Char} {found : List Char × List Char}
    (h : metricHere? cs = some found) :
    ∃ w, (∃ d, Text.isDecimalDigit d = true ∧ w = " = ".toList ++ [d]) ∧ w <:+: cs := by
  simp only [metricHere?, bind, Option.bind_eq_some_iff] at h
  obtain ⟨⟨name, cs₁⟩, hname, cs₂, hassign, h⟩ := h
  obtain rfl := append_of_name? hname
  obtain rfl := Text.after?_eq_some_iff.1 hassign
  cases hrun : Text.takeRun Text.isDecimalDigit cs₂ with
  | mk digits rest =>
    obtain ⟨rfl, hdigits, -⟩ := Text.takeRun_eq_iff.1 hrun
    rw [hrun] at h
    cases digits with
    | nil => exact absurd h (by simp)
    | cons d ds =>
      refine ⟨_, ⟨d, hdigits d List.mem_cons_self, rfl⟩, name, ds ++ rest, ?_⟩
      simp only [List.append_assoc, List.cons_append, List.nil_append]

theorem needs_of_attributeHere? {cs : List Char} {found : List Char × List Char}
    (h : attributeHere? cs = some found) : " = ".toList <:+: cs := by
  simp only [attributeHere?, bind, Option.bind_eq_some_iff] at h
  obtain ⟨⟨name, cs₁⟩, hname, cs₂, hassign, -⟩ := h
  obtain rfl := append_of_name? hname
  obtain rfl := Text.after?_eq_some_iff.1 hassign
  exact ⟨name, '\'' :: cs₂, by simp only [List.append_assoc]; rfl⟩

theorem needs_of_indirectHere? {cs : List Char} {found : Option (List Char)}
    (h : indirectHere? cs = some found) : "indirect call".toList <:+: cs := by
  rw [indirectHere?, Option.map_eq_some_iff] at h
  obtain ⟨rest, hcall, -⟩ := h
  rw [Text.after?_eq_some_iff.1 hcall]
  exact List.infix_append_left

theorem needs_of_directHere? {cs : List Char} {found : List Char}
    (h : directHere? cs = some found) : "direct call".toList <:+: cs := by
  rw [directHere?, Option.bind_eq_some_iff] at h
  obtain ⟨rest, hcall, -⟩ := h
  rw [Text.after?_eq_some_iff.1 hcall]
  exact List.infix_append_left

theorem metric?_eq_none_of_digit {cs : List Char}
    (h : ∀ d, Text.isDecimalDigit d = true → ¬ " = ".toList ++ [d] <:+: cs) :
    metric? cs = none := by
  have hnone : Text.firstMatchAtWord metricHere? false cs = none := by
    refine Text.firstMatchAtWord_eq_none_of_needs _ (fun t a => needs_of_metricHere?) ?_ false
    rintro w ⟨d, hd, rfl⟩
    exact h d hd
  rw [metric?, hnone]
  rfl

theorem metric?_eq_none {cs : List Char} (h : ¬ " = ".toList <:+: cs) : metric? cs = none :=
  metric?_eq_none_of_digit fun _ _ hin => h (List.infix_append_left.trans hin)

theorem attribute?_eq_none {cs : List Char} (h : ¬ " = ".toList <:+: cs) :
    attribute? cs = none := by
  have hnone : Text.firstMatchAtWord attributeHere? false cs = none :=
    Text.firstMatchAtWord_eq_none_of_needs (· = " = ".toList)
      (fun t a ha => ⟨_, rfl, needs_of_attributeHere? ha⟩) (fun w hw => hw ▸ h) false
  rw [attribute?, hnone]
  rfl

theorem indirectCall?_eq_none {cs : List Char} (h : ¬ "indirect call".toList <:+: cs) :
    indirectCall? cs = none := by
  have hnone : Text.firstMatchAtWord indirectHere? false cs = none :=
    Text.firstMatchAtWord_eq_none_of_needs (· = "indirect call".toList)
      (fun t a ha => ⟨_, rfl, needs_of_indirectHere? ha⟩) (fun w hw => hw ▸ h) false
  rw [indirectCall?, hnone]
  rfl

theorem directCall?_eq_none {cs : List Char} (h : ¬ "direct call".toList <:+: cs) :
    directCall? cs = none := by
  have hnone : Text.firstMatchAtWord directHere? false cs = none :=
    Text.firstMatchAtWord_eq_none_of_needs (· = "direct call".toList)
      (fun t a ha => ⟨_, rfl, needs_of_directHere? ha⟩) (fun w hw => hw ▸ h) false
  rw [directCall?, hnone]
  rfl

/-! ### Assignments -/

theorem name?_append {inName : Char → Bool} {name : List Char} {stop : Char}
    (rest : List Char) (h : IsName inName name) (hstop : inName stop = false) :
    name? inName (name ++ stop :: rest) = some (name, stop :: rest) := by
  cases name with
  | nil => exact h.elim
  | cons c cs =>
    rw [List.cons_append, name?, if_pos h.1, Text.takeRun_append_cons rest h.2 hstop]

theorem metric?_written {name : List Char} (hname : IsName Text.isNameChar name)
    (value : UInt64) :
    metric? (name ++ (" = ".toList ++ Text.numeral value.toNat)) =
      some (.metric (.ofList name) value) := by
  have hnamed : name? Text.isNameChar (name ++ (" = ".toList ++ Text.numeral value.toNat)) =
      some (name, " = ".toList ++ Text.numeral value.toNat) :=
    name?_append ("= ".toList ++ Text.numeral value.toNat) hname (by decide)
  have hdigits : Text.takeRun Text.isDecimalDigit (Text.numeral value.toNat) =
      (Text.numeral value.toNat, []) := by
    refine Text.takeRun_eq_iff.2 ⟨(List.append_nil _).symm, ?_, by simp⟩
    exact fun c hc => Text.isDecimalDigit_of_mem_numeral hc
  have hne : (Text.numeral value.toNat).isEmpty = false :=
    List.isEmpty_eq_false_iff.2 (Text.numeral_ne_nil _)
  have hhere : metricHere? (name ++ (" = ".toList ++ Text.numeral value.toNat)) =
      some (name, Text.numeral value.toNat) := by
    simp only [metricHere?, bind, hnamed, Option.bind_some, Text.after?_append, hdigits, hne]
    rfl
  simp only [metric?, bind, Text.firstMatchAtWord_of_here hhere, Option.bind_some,
    Text.readUInt64?_numeral]
  rfl

theorem attribute?_written {name value : List Char} (hname : IsName isAttributeChar name)
    (hquote : '\'' ∉ value) :
    attribute? (name ++ (" = ".toList ++ '\'' :: (value ++ ['\'']))) =
      some (.attr (.ofList name) (.ofList value)) := by
  have hnamed : name? isAttributeChar (name ++ (" = ".toList ++ '\'' :: (value ++ ['\'']))) =
      some (name, " = '".toList ++ (value ++ ['\''])) :=
    name?_append ("= '".toList ++ (value ++ ['\''])) hname (by decide)
  have hhere : attributeHere? (name ++ (" = ".toList ++ '\'' :: (value ++ ['\'']))) =
      some (name, value) := by
    simp only [attributeHere?, bind, hnamed, Option.bind_some, Text.after?_append,
      Text.takeRun_ne '\'' [] hquote]
  rw [attribute?, Text.firstMatchAtWord_of_here hhere]
  rfl

/-- The quote behind the only equals sign between blanks is no digit. -/
theorem metric?_attribute {name value : List Char} (hname : IsName isAttributeChar name)
    (hassign : ¬ " = ".toList <:+: value) :
    metric? (name ++ (" = ".toList ++ '\'' :: (value ++ ['\'']))) = none := by
  refine metric?_eq_none_of_digit fun d hd hin => ?_
  have hspace : ' ' ∉ name := hname.notMem (by decide) (by decide)
  have hdigit : '\'' ≠ d := by
    rintro rfl
    exact absurd hd (by decide)
  have hquote : '\'' ∉ " = ".toList ++ [d] := by
    rw [List.mem_append, List.mem_singleton, not_or]
    exact ⟨by decide, hdigit⟩
  -- the words hold no quote, so they stand on one side of each quote of the text
  have htail : " = ".toList ++ [d] <:+: " = ".toList ++ '\'' :: (value ++ ['\'']) :=
    (Text.infix_append_iff_of_notMem hspace _).1 hin
  rcases (Text.infix_append_cons_iff hquote _ _).1 htail with h | h
  · exact absurd h.length_le (by simp)
  · rcases (Text.infix_append_cons_iff hquote _ _).1 h with h | h
    · exact hassign (List.infix_append_left.trans h)
    · exact absurd (List.infix_nil.1 h) (by simp)

/-! ### Calls -/

theorem not_infix_calleeText {w callee : List Char} (hcallee : Bare callee)
    (hquote : '\'' ∉ w) (hspace : ' ' ∈ w) {lead : List Char}
    (hlead : ¬ w <:+: lead ++ ", callee is ".toList) : ¬ w <:+: lead ++ calleeText callee := by
  intro h
  have h' : w <:+: (lead ++ ", callee is ".toList) ++ '\'' :: (callee ++ ['\'']) := by
    rw [List.append_assoc]
    exact h
  rw [Text.infix_append_cons_iff hquote, Text.infix_append_cons_iff hquote] at h'
  rcases h' with h | h | h
  · exact hlead h
  · exact hcallee.space_notMem (h.subset hspace)
  · exact absurd (h.subset hspace) List.not_mem_nil

theorem callee?_calleeText {callee : List Char} (hne : callee ≠ []) (hcallee : Bare callee) :
    callee? (calleeText callee) = some callee := by
  have hlead : Text.after? ", callee is '" (calleeText callee) = some (callee ++ ['\'']) :=
    Text.after?_append ", callee is '" (callee ++ ['\''])
  simp only [callee?, bind, hlead, Option.bind_some,
    Text.runTo?_append [] hne hcallee.quote_notMem]
  rfl

theorem indirectCall?_written (rest : List Char) :
    indirectCall? ("indirect call".toList ++ rest) =
      some (.indirectCall ((callee? rest).map .ofList)) := by
  have hhere : indirectHere? ("indirect call".toList ++ rest) = some (callee? rest) := by
    rw [indirectHere?, Text.after?_append]
    rfl
  rw [indirectCall?, Text.firstMatchAtWord_of_here hhere]
  rfl

theorem directCall?_written {callee : List Char} (hne : callee ≠ []) (hcallee : Bare callee) :
    directCall? ("direct call".toList ++ calleeText callee) =
      some (.directCall (.ofList callee)) := by
  have hhere : directHere? ("direct call".toList ++ calleeText callee) = some callee := by
    rw [directHere?, Text.after?_append, Option.bind_some, callee?_calleeText hne hcallee]
  rw [directCall?, Text.firstMatchAtWord_of_here hhere]
  rfl

/-! ### Memory accesses -/

theorem not_infix_accessText {w instruction operand space : List Char} {viaCall : Bool}
    (hinstruction : Bare instruction) (hoperand : Bare operand) (hquote : '\'' ∉ w)
    (hspace : ' ' ∈ w) (hword : ¬ w <:+: accessWord viaCall)
    (htail : ¬ w <:+: spaceText space) :
    ¬ w <:+: accessText instruction viaCall operand space := by
  intro h
  have h' : w <:+: [] ++ '\'' :: (instruction ++ '\'' :: (accessWord viaCall ++ '\'' ::
    (operand ++ '\'' :: spaceText space))) := h
  simp only [Text.infix_append_cons_iff hquote] at h'
  rcases h' with h | h | h | h | h
  · exact absurd (h.subset hspace) List.not_mem_nil
  · exact hinstruction.space_notMem (h.subset hspace)
  · exact hword h
  · exact hoperand.space_notMem (h.subset hspace)
  · exact htail h

theorem not_assign_infix_spaceText {space : List Char} (h : ∀ c ∈ space, c.isAlpha = true) :
    ¬ " = ".toList <:+: spaceText space := by
  intro hin
  have hequals : '=' ∈ spaceText space := hin.subset (by simp)
  rcases List.mem_append.1 hequals with hlead | hrest
  · exact absurd hlead (by simp)
  · rcases List.mem_append.1 hrest with hspace | hend
    · exact notMem_of_isAlpha h (by decide) hspace
    · exact absurd hend (by simp)

/-- The words of a call do not follow each other, whatever the address space is called. -/
theorem not_call_infix_spaceText {space : List Char} (h : ∀ c ∈ space, c.isAlpha = true) :
    ¬ "direct call".toList <:+: spaceText space := by
  have hspace : ' ' ∉ space := notMem_of_isAlpha h (by decide)
  have hword : ' ' ∉ "direct".toList := by decide
  have hwords : spaceText space = ")".toList ++ ' ' :: ("accesses".toList ++ ' ' ::
      ("memory".toList ++ ' ' :: ("in".toList ++ ' ' :: (space ++ ' ' ::
        ("address".toList ++ ' ' :: "space".toList))))) := rfl
  -- the blank of the call would be one of these, and none stands between its two words
  have hcall : "direct call".toList = "direct".toList ++ ' ' :: "call".toList := rfl
  rw [hcall, hwords, Text.infix_across_iff hword (by simp), Text.infix_across_iff hword (by simp),
    Text.infix_across_iff hword (by simp), Text.infix_across_iff hword (by simp),
    Text.infix_across_iff hword hspace, Text.infix_across_iff hword (by simp)]
  rintro (⟨hbefore, -⟩ | ⟨hbefore, -⟩ | ⟨hbefore, -⟩ | ⟨hbefore, -⟩ |
    ⟨-, hbehind⟩ | ⟨hbefore, -⟩ | hin)
  · exact absurd hbefore (by decide)
  · exact absurd hbefore (by decide)
  · exact absurd hbefore (by decide)
  · exact absurd hbefore (by decide)
  · exact absurd hbehind (by simp)
  · exact absurd hbefore (by decide)
  · exact Text.not_infix_of_occursIn (by decide) hin

theorem space?_written {space : List Char} (hne : space ≠ [])
    (h : ∀ c ∈ space, c.isAlpha = true) : space? ('\'' :: spaceText space) = some space := by
  have hquote : Text.after? "'" ('\'' :: spaceText space) = some (spaceText space) :=
    Text.after?_append "'" (spaceText space)
  have hrun : Text.takeRun Char.isAlpha (space ++ " address space".toList) =
      (space, " address space".toList) :=
    Text.takeRun_append_cons "address space".toList h (by decide)
  have hend : Text.after? " address space" " address space".toList = some [] :=
    Text.after?_eq_some_iff.2 rfl
  have hlead : Text.after? ") accesses memory in " (spaceText space) =
      some (space ++ " address space".toList) := Text.after?_append _ _
  simp only [space?, bind, hquote, Option.getD_some, hlead, Option.bind_some, hrun, hend]
  rw [List.isEmpty_eq_false_iff.2 hne]
  rfl

/-- An operand does not look like the end of an access. -/
theorem space?_operand {c : Char} {operand rest : List Char} (h : Bare (c :: operand)) :
    space? (c :: (operand ++ '\'' :: rest)) = none := by
  have hquote : Text.after? "'" (c :: (operand ++ '\'' :: rest)) = none := by
    refine Text.after?_eq_none fun hin => ?_
    have hc : '\'' = c := (List.cons_prefix_cons.1 hin).1
    exact (h c List.mem_cons_self).1 hc.symm
  have hlead : Text.after? ") accesses memory in " (c :: (operand ++ '\'' :: rest)) = none := by
    refine Text.after?_eq_none fun hin => ?_
    have htail := (List.cons_prefix_cons.1 hin).2
    cases operand with
    | nil => exact absurd (List.cons_prefix_cons.1 htail).1 (by decide)
    | cons d operand =>
      have hd : ' ' = d := (List.cons_prefix_cons.1 htail).1
      exact h.space_notMem (hd ▸ List.mem_cons_of_mem c List.mem_cons_self)
  simp only [space?, bind, hquote, Option.getD_none, hlead, Option.bind_none]

theorem operand?_written {operand space : List Char} (hoperand : Bare operand)
    (hne : space ≠ []) (hspace : ∀ c ∈ space, c.isAlpha = true) :
    operand? (operand ++ '\'' :: spaceText space) = some (operand, space) := by
  induction operand with
  | nil =>
    rw [List.nil_append, operand?, space?_written hne hspace]
  | cons c operand ih =>
    have hc : c ≠ '\'' := (hoperand c List.mem_cons_self).1
    have hrest : Bare operand := fun d hd => hoperand d (List.mem_cons_of_mem c hd)
    rw [List.cons_append, operand?, space?_operand hoperand]
    simp only [if_neg hc, ih hrest, Option.map_some]

theorem access?_written {instruction operand space : List Char} (viaCall : Bool)
    (hne : instruction ≠ []) (hinstruction : Bare instruction) (hoperand : Bare operand)
    (hspace_ne : space ≠ []) (hspace : ∀ c ∈ space, c.isAlpha = true) :
    access? (accessText instruction viaCall operand space) =
      some (.access (.ofList instruction) viaCall (.ofList operand) (.ofList space)) := by
  have hquote (cs : List Char) : Text.after? "'" ('\'' :: cs) = some cs :=
    Text.after?_append "'" cs
  have hoperand' := operand?_written hoperand hspace_ne hspace
  have hinstruction' (cs : List Char) :
      Text.runTo? '\'' (instruction ++ '\'' :: cs) = some (instruction, cs) :=
    Text.runTo?_append cs hne hinstruction.quote_notMem
  have hnotInstruction (cs : List Char) :
      Text.after? " instruction (" (" call (".toList ++ cs) = none := by
    refine Text.after?_eq_none fun hin => ?_
    have htail := (List.cons_prefix_cons.1 hin).2
    exact absurd (List.cons_prefix_cons.1 htail).1 (by decide)
  have hhere : accessHere? (accessText instruction viaCall operand space) =
      some ⟨instruction, viaCall, operand, space⟩ := by
    cases viaCall with
    | false =>
      simp only [accessHere?, accessText, accessWord, bind, pure, hquote, Option.bind_some,
        hinstruction', Bool.false_eq_true, if_false, Text.after?_append, Option.getD_some,
        hoperand']
    | true =>
      simp only [accessHere?, accessText, accessWord, bind, pure, hquote, Option.bind_some,
        hinstruction', if_true, hnotInstruction, Text.after?_append, Option.map_some,
        Option.getD_some, hoperand']
  rw [access?, Text.firstMatch_of_here hhere]
  rfl

theorem ofText?_access {instruction operand space : List Char} (viaCall : Bool)
    (hne : instruction ≠ []) (hinstruction : Bare instruction) (hoperand : Bare operand)
    (hspace_ne : space ≠ []) (hspace : ∀ c ∈ space, c.isAlpha = true) :
    Sentence.ofText? (accessText instruction viaCall operand space) =
      some (.access (.ofList instruction) viaCall (.ofList operand) (.ofList space)) := by
  have hassign : ¬ " = ".toList <:+: accessText instruction viaCall operand space := by
    refine not_infix_accessText hinstruction hoperand (by decide) (by decide) ?_
      (not_assign_infix_spaceText hspace)
    cases viaCall <;> exact Text.not_infix_of_occursIn (by decide)
  have hdirect : ¬ "direct call".toList <:+: accessText instruction viaCall operand space := by
    refine not_infix_accessText hinstruction hoperand (by decide) (by decide) ?_
      (not_call_infix_spaceText hspace)
    cases viaCall <;> exact Text.not_infix_of_occursIn (by decide)
  have hsuffix : "direct call".toList <:+: "indirect call".toList :=
    (Text.occursIn_iff _ _).1 (by decide)
  have hindirect : ¬ "indirect call".toList <:+: accessText instruction viaCall operand space :=
    fun hin => hdirect (hsuffix.trans hin)
  rw [Sentence.ofText?, metric?_eq_none hassign, attribute?_eq_none hassign,
    indirectCall?_eq_none hindirect, directCall?_eq_none hdirect,
    access?_written viaCall hne hinstruction hoperand hspace_ne hspace]
  rfl

/-! ### What written sentences are read as -/

theorem trimmed_of_bare {cs : List Char} (h : Bare cs) :
    Text.trimmed (.ofList cs) = .ofList cs := by
  have htrim : Text.trim cs = cs := by
    refine Text.trim_eq_self (fun c hc => ?_) fun c hc => ?_
    · exact (h c (List.mem_of_head? hc)).2
    · exact (h c (List.mem_of_getLast? hc)).2
  rw [Text.trimmed, String.toList_ofList, htrim]

theorem describe_access_known {instruction operand space : List Char} {viaCall : Bool}
    {type : AccessType} {known : AddressSpace} (hoperand : Bare operand)
    (htype : AccessType.classify? (.ofList instruction) viaCall = some type)
    (hknown : AddressSpace.ofName? (.ofList space) = some known) :
    (Sentence.access (.ofList instruction) viaCall (.ofList operand) (.ofList space)).describe =
      { flatAccesses := 1
        memoryAccesses := [{
          type
          space := known
          instruction := some (.ofList instruction)
          operand := if operand = [] then none else some (.ofList operand) }] } := by
  simp only [Sentence.describe, Sentence.describeAccess, htype, hknown, trimmed_of_bare hoperand]
  cases operand with
  | nil => rfl
  | cons c cs =>
    have hne : (String.ofList (c :: cs)).isEmpty = false := by
      simp [String.isEmpty_eq_false_iff]
    rw [hne]
    rfl

theorem describe_access_unknown {instruction operand space : String} {viaCall : Bool}
    (hunknown : AccessType.classify? instruction viaCall = none ∨
      AddressSpace.ofName? space = none) :
    (Sentence.access instruction viaCall operand space).describe =
      { flatAccesses := 1
        attributes := (NameMap.empty.insert "access_instruction" instruction).insert
          "access_address_space" space } := by
  rw [Sentence.describe, Sentence.describeAccess]
  split
  · rename_i type known htype hknown
    rcases hunknown with h | h
    · exact absurd (htype.symm.trans h) (by simp)
    · exact absurd (hknown.symm.trans h) (by simp)
  · rfl

/-- A written sentence is read as one that describes the same and gives the same metric. -/
theorem ofText?_of_written {text : List Char} {d : Descriptor} {m : Option (String × UInt64)}
    (h : Written text d m) :
    ∃ s, Sentence.ofText? text = some s ∧ s.describe = d ∧ s.metric? = m := by
  cases h with
  | @metric name hname value =>
    refine ⟨.metric (.ofList name) value, ?_, rfl, rfl⟩
    rw [Sentence.ofText?, metric?_written hname value]
    rfl
  | @attr name value hname hquote hassign =>
    refine ⟨.attr (.ofList name) (.ofList value), ?_, rfl, rfl⟩
    rw [Sentence.ofText?, metric?_attribute hname hassign, attribute?_written hname hquote]
    rfl
  | indirectCall =>
    have hassign : ¬ " = ".toList <:+: "indirect call".toList :=
      Text.not_infix_of_occursIn (by decide)
    refine ⟨.indirectCall none, ?_, rfl, rfl⟩
    rw [Sentence.ofText?, metric?_eq_none hassign, attribute?_eq_none hassign]
    exact indirectCall?_written []
  | @indirectCallOf callee hne hcallee =>
    have hassign : ¬ " = ".toList <:+: "indirect call".toList ++ calleeText callee :=
      not_infix_calleeText hcallee (by decide) (by decide)
        (Text.not_infix_of_occursIn (by decide))
    refine ⟨.indirectCall (some (.ofList callee)), ?_, rfl, rfl⟩
    rw [Sentence.ofText?, metric?_eq_none hassign, attribute?_eq_none hassign,
      indirectCall?_written, callee?_calleeText hne hcallee]
    rfl
  | @directCall callee hne hcallee =>
    have hassign : ¬ " = ".toList <:+: "direct call".toList ++ calleeText callee :=
      not_infix_calleeText hcallee (by decide) (by decide)
        (Text.not_infix_of_occursIn (by decide))
    have hindirect : ¬ "indirect call".toList <:+: "direct call".toList ++ calleeText callee :=
      not_infix_calleeText hcallee (by decide) (by decide)
        (Text.not_infix_of_occursIn (by decide))
    refine ⟨.directCall (.ofList callee), ?_, rfl, rfl⟩
    rw [Sentence.ofText?, metric?_eq_none hassign, attribute?_eq_none hassign,
      indirectCall?_eq_none hindirect, directCall?_written hne hcallee]
    rfl
  | access hne hinstruction hoperand hspace_ne hspace htype hknown =>
    exact ⟨_, ofText?_access _ hne hinstruction hoperand hspace_ne hspace,
      describe_access_known hoperand htype hknown, rfl⟩
  | accessUnknown hne hinstruction hoperand hspace_ne hspace hunknown =>
    exact ⟨_, ofText?_access _ hne hinstruction hoperand hspace_ne hspace,
      describe_access_unknown hunknown, rfl⟩

end BuildRemarks.Kernel
