import BuildRemarks.Printed.Parse
import BuildRemarks.Proofs.NameMap
import BuildRemarks.Proofs.Text.Splitting

/-!
# What a message was read from

An inlining sentence that is found in a message stands there with all its parts, whatever else
the message holds. The two sides of a message stand around its first colon that a space follows.
-/

namespace BuildRemarks.Printed

namespace Inlining

/-- The sentence, from the opening quote to the semicolon. -/
def text (s : Inlining) : List Char :=
  '\'' :: (s.callee ++ '\'' :: (" inlined into '".toList ++ (s.caller ++ '\'' ::
    (" with (".toList ++ (s.parameters ++ ')' :: (':' ::
      (s.reason ++ (" at callsite ".toList ++ (s.callsite ++ [';'])))))))))

/-- No part but the reason is empty, and none holds the character that ends it. -/
structure Proper (s : Inlining) : Prop where
  callee_ne_nil : s.callee ≠ []
  quote_notMem_callee : '\'' ∉ s.callee
  caller_ne_nil : s.caller ≠ []
  quote_notMem_caller : '\'' ∉ s.caller
  parameters_ne_nil : s.parameters ≠ []
  paren_notMem_parameters : ')' ∉ s.parameters
  newline_notMem_reason : '\n' ∉ s.reason
  callsite_ne_nil : s.callsite ≠ []
  semicolon_notMem_callsite : ';' ∉ s.callsite

end Inlining

/-! ### The sentence -/

theorem exists_of_callsite? {cs callsite : List Char} (h : callsite? cs = some callsite) :
    callsite ≠ [] ∧ ';' ∉ callsite ∧
      ∃ rest, cs = " at callsite ".toList ++ (callsite ++ ';' :: rest) := by
  simp only [callsite?, bind, Option.bind_eq_some_iff, pure, Option.some.injEq] at h
  obtain ⟨cs₁, hlead, ⟨callsite', rest⟩, hrun, rfl⟩ := h
  obtain rfl := Text.after?_eq_some_iff.1 hlead
  obtain ⟨hne, hsemicolon, rfl⟩ := Text.runTo?_eq_some_iff.1 hrun
  exact ⟨hne, hsemicolon, rest, rfl⟩

theorem exists_of_reason? {cs reason callsite : List Char}
    (h : reason? cs = some (reason, callsite)) :
    '\n' ∉ reason ∧ callsite ≠ [] ∧ ';' ∉ callsite ∧
      ∃ rest, cs = reason ++ (" at callsite ".toList ++ (callsite ++ ';' :: rest)) := by
  induction cs generalizing reason with
  | nil => exact absurd h (by simp [reason?])
  | cons c cs ih =>
    rw [reason?] at h
    -- the call site begins here, or the reason goes on with this character
    split at h
    · rename_i found hfound
      cases h
      exact ⟨List.not_mem_nil, exists_of_callsite? hfound⟩
    · split at h
      · exact absurd h (by simp)
      · rename_i hc
        obtain ⟨⟨reason', callsite'⟩, hread, he⟩ := Option.map_eq_some_iff.1 h
        cases he
        obtain ⟨hline, hne, hsemicolon, rest, rfl⟩ := ih hread
        have hline' : '\n' ∉ c :: reason' :=
          List.not_mem_cons_of_ne_of_not_mem (Ne.symm hc) hline
        exact ⟨hline', hne, hsemicolon, rest, rfl⟩

theorem Inlining.exists_of_inliningHere? {cs : List Char} {s : Inlining}
    (h : inliningHere? cs = some s) : s.Proper ∧ ∃ rest, cs = s.text ++ rest := by
  simp only [inliningHere?, bind, Option.bind_eq_some_iff, pure, Option.some.injEq] at h
  obtain ⟨cs₁, hopen, ⟨callee, cs₂⟩, hcallee, cs₃, hinto, ⟨caller, cs₄⟩, hcaller,
    cs₅, hwith, ⟨parameters, cs₆⟩, hparameters, cs₇, hcolon, ⟨reason, callsite⟩,
    hreason, rfl⟩ := h
  -- each step puts the text that it has taken back in front of the rest
  obtain rfl := Text.after?_eq_some_iff.1 hopen
  obtain ⟨hcne, hcquote, rfl⟩ := Text.runTo?_eq_some_iff.1 hcallee
  obtain rfl := Text.after?_eq_some_iff.1 hinto
  obtain ⟨hrne, hrquote, rfl⟩ := Text.runTo?_eq_some_iff.1 hcaller
  obtain rfl := Text.after?_eq_some_iff.1 hwith
  obtain ⟨hpne, hpparen, rfl⟩ := Text.runTo?_eq_some_iff.1 hparameters
  obtain rfl := Text.after?_eq_some_iff.1 hcolon
  obtain ⟨hline, hsne, hsemicolon, rest, rfl⟩ := exists_of_reason? hreason
  refine ⟨⟨hcne, hcquote, hrne, hrquote, hpne, hpparen, hline, hsne, hsemicolon⟩, rest, ?_⟩
  simp only [Inlining.text, List.cons_append, List.append_assoc, List.nil_append]
  rfl

/-- A sentence that is found stands in the message. -/
theorem Inlining.infix_of_ofMessage? {message : List Char} {s : Inlining}
    (h : Inlining.ofMessage? message = some s) : s.Proper ∧ s.text <:+: message := by
  obtain ⟨front, found, rfl, hhere⟩ := Text.exists_here_of_firstMatch h
  obtain ⟨hproper, rest, rfl⟩ := exists_of_inliningHere? hhere
  exact ⟨hproper, front, rest, List.append_assoc front s.text rest⟩

/-! ### The arguments -/

theorem exists_addParameter (args : Remark.Args) (parameter : List Char) :
    ∃ cost values, addParameter args parameter = { args with cost, values } := by
  rw [addParameter]
  split
  · exact ⟨args.cost, args.values, rfl⟩
  · rename_i key value hsplit
    by_cases hcost : String.ofList (Text.trim key) = "cost"
    · exact ⟨some (.ofList (Text.trim value)), args.values, if_pos hcost⟩
    · by_cases hkey : String.ofList (Text.trim key) = ""
      · exact ⟨args.cost, args.values, (if_neg hcost).trans (if_pos hkey)⟩
      · exact ⟨args.cost, _, (if_neg hcost).trans (if_neg hkey)⟩

theorem exists_foldl_addParameter (args : Remark.Args) (parameters : List (List Char)) :
    ∃ cost values, parameters.foldl addParameter args = { args with cost, values } := by
  induction parameters generalizing args with
  | nil => exact ⟨args.cost, args.values, rfl⟩
  | cons parameter parameters ih =>
    obtain ⟨cost, values, hstep⟩ := exists_addParameter args parameter
    rw [List.foldl_cons, hstep]
    exact ih { args with cost, values }

/-- Whatever the parameters are, the other arguments are the parts of the sentence. -/
theorem Inlining.exists_args (s : Inlining) :
    ∃ cost values, s.args =
      { callee := some (.ofList s.callee)
        caller := some (.ofList s.caller)
        reason := some (.ofList (Text.trim s.reason))
        location := Location.ofTriple? (Text.trim s.callsite)
        cost, values } :=
  exists_foldl_addParameter _ _

/-! ### Subject and rest -/

/-- The message is divided at its first colon that a space follows. -/
structure DividedAt (message front back : List Char) : Prop where
  text : message = front ++ (": ".toList ++ back)
  first : ∀ before behind, message = before ++ (": ".toList ++ behind) →
    front.length ≤ before.length

/-- The texts are the two sides of the message without the blanks around them, and neither is
empty. -/
structure Sides (message : List Char) (subject rest : String) : Prop where
  divided : ∃ front back, DividedAt message front back ∧
    subject = .ofList (Text.trim front) ∧ rest = .ofList (Text.trim back)
  subject_ne_empty : subject ≠ ""
  rest_ne_empty : rest ≠ ""

theorem sides_of_splitSubject? {message : List Char} {subject rest : String}
    (h : splitSubject? message = some (subject, rest)) : Sides message subject rest := by
  simp only [splitSubject?, bind, Option.bind_eq_some_iff] at h
  obtain ⟨⟨front, back⟩, hsplit, h⟩ := h
  have hdivided : DividedAt message front back := by
    refine ⟨?_, fun before behind hmessage => ?_⟩
    · rw [Text.append_of_splitOnce? hsplit, List.append_assoc]
      rfl
    · refine Text.length_front_le_of_splitOnce? (b := behind) hsplit ?_
      rw [hmessage, List.append_assoc]
      rfl
  split at h
  · exact absurd h (by simp)
  · rename_i hempty
    rw [Bool.or_eq_true, not_or, List.isEmpty_iff, List.isEmpty_iff] at hempty
    cases h
    exact ⟨⟨front, back, hdivided, rfl, rfl⟩, mt String.ofList_eq_empty_iff.1 hempty.1,
      mt String.ofList_eq_empty_iff.1 hempty.2⟩

end BuildRemarks.Printed
