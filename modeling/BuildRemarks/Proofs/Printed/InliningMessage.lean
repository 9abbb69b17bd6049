import BuildRemarks.Proofs.Printed.Parameters
import BuildRemarks.Proofs.Text.Numerals
import BuildRemarks.Proofs.Text.Runs

/-!
# Messages about inlining

A message that tells of one function inlined into another is read back in all its parts. The
texts of the parts may hold what the notation is made of as long as they do not end a part
early.
-/

namespace BuildRemarks.Printed

/-- What an inlining remark tells. -/
structure Told where
  callee : List Char
  caller : List Char
  parameters : List Parameter
  reason : List Char
  /-- The place of the call. -/
  file : List Char
  line : UInt32
  column : UInt32

/-- `file:line:column` -/
def placeText (file : List Char) (line column : UInt32) : List Char :=
  file ++ ':' :: (Text.numeral line.toNat ++ ':' :: Text.numeral column.toNat)

namespace Told

def callsite (t : Told) : List Char := placeText t.file t.line t.column

/-- The message, from the reason on. -/
def ending (t : Told) : List Char :=
  (' ' :: t.reason) ++ (" at callsite ".toList ++ (t.callsite ++ [';']))

def message (t : Told) : List Char :=
  '\'' :: (t.callee ++ '\'' :: (" inlined into '".toList ++ (t.caller ++ '\'' ::
    (" with (".toList ++ (parametersText t.parameters ++ ')' :: (':' :: t.ending))))))

/-- The parts are such that each ends where the notation says. -/
structure Proper (t : Told) : Prop where
  callee_ne_nil : t.callee ≠ []
  quote_notMem_callee : '\'' ∉ t.callee
  caller_ne_nil : t.caller ≠ []
  quote_notMem_caller : '\'' ∉ t.caller
  parameters_ne_nil : t.parameters ≠ []
  parameters : ∀ p ∈ t.parameters, p.Proper
  trim_reason : Text.trim t.reason = t.reason
  reason_ends : ¬ " at callsite ".toList <:+: (' ' :: t.reason) ++ " at callsite".toList
  file_ne_nil : t.file ≠ []
  semicolon_notMem_file : ';' ∉ t.file
  file_head : ∀ c, t.file.head? = some c → Text.isBlank c = false
  one_line : '\n' ∉ t.message

/-- The remark of the message. -/
def remark (t : Told) (values : NameMap String) : Remark :=
  { Remark.plain .optimization .inlining .passed (.ofList t.message) with
    args := {
      callee := some (.ofList t.callee)
      caller := some (.ofList t.caller)
      reason := some (.ofList t.reason)
      cost := lastValue? "cost" t.parameters
      location := some (.inFile (.ofList t.file) t.line t.column)
      values }
    metadata :=
      ((NameMap.empty.insert "action" (.string "inlined into")).insert "params"
        (.string (.ofList (parametersText t.parameters)))).insert "callsite"
          (.string (.ofList t.callsite)) }

end Told

/-! ### Places -/

theorem trim_placeText {file : List Char} (line column : UInt32) (hne : file ≠ [])
    (hhead : ∀ c, file.head? = some c → Text.isBlank c = false) :
    Text.trim (placeText file line column) = placeText file line column := by
  refine Text.trim_eq_self (fun c hc => hhead c ?_) fun c hc => ?_
  · cases file with
    | nil => exact absurd rfl hne
    | cons d ds => exact hc
  · obtain ⟨d, hd, hdigit⟩ := Text.getLast?_numeral column.toNat
    have hlast : (placeText file line column).getLast? = some d :=
      Text.getLast?_append_of_some (Text.getLast?_cons_of_some
        (Text.getLast?_append_of_some (Text.getLast?_cons_of_some hd _)) _)
    rw [hlast] at hc
    exact Option.some.inj hc ▸ Text.isBlank_of_isDigit hdigit

theorem ofTriple?_placeText {file : List Char} (line column : UInt32) (hne : file ≠ [])
    (hhead : ∀ c, file.head? = some c → Text.isBlank c = false) :
    Location.ofTriple? (placeText file line column) =
      some (.inFile (.ofList file) line column) := by
  have hcolumn : Text.splitLast? ':' (placeText file line column) =
      some (file ++ ':' :: Text.numeral line.toNat, Text.numeral column.toNat) := by
    refine Text.splitLast?_eq_some_iff.2 ⟨?_, Text.notMem_numeral (by decide) _⟩
    rw [placeText, List.append_assoc, List.cons_append]
  have hline : Text.splitLast? ':' (file ++ ':' :: Text.numeral line.toNat) =
      some (file, Text.numeral line.toNat) :=
    Text.splitLast?_eq_some_iff.2 ⟨rfl, Text.notMem_numeral (by decide) _⟩
  simp only [Location.ofTriple?, bind, trim_placeText line column hne hhead, hcolumn, hline,
    Option.bind_some, Text.readUInt32?_numeral, List.isEmpty_eq_false_iff.2 hne]
  rfl

/-! ### Messages -/

namespace Told

variable {t : Told}

theorem semicolon_notMem_callsite (ht : t.Proper) : ';' ∉ t.callsite := by
  intro hmem
  rcases List.mem_append.1 hmem with hfile | hrest
  · exact ht.semicolon_notMem_file hfile
  · rcases List.mem_cons.1 hrest with he | hrest
    · exact absurd he (by decide)
    · rcases List.mem_append.1 hrest with hline | hrest
      · exact Text.notMem_numeral (by decide) _ hline
      · rcases List.mem_cons.1 hrest with he | hcolumn
        · exact absurd he (by decide)
        · exact Text.notMem_numeral (by decide) _ hcolumn

theorem callsite_ne_nil (t : Told) : t.callsite ≠ [] := by simp [callsite, placeText]

theorem newline_notMem_reason (ht : t.Proper) : '\n' ∉ ' ' :: t.reason := by
  intro hmem
  have hending : '\n' ∈ t.ending := List.mem_append_left _ hmem
  have hparameters : '\n' ∈ parametersText t.parameters ++ ')' :: (':' :: t.ending) :=
    List.mem_append_right _ (List.mem_cons_of_mem _ (List.mem_cons_of_mem _ hending))
  have hcaller : '\n' ∈ t.caller ++ '\'' :: (" with (".toList ++
      (parametersText t.parameters ++ ')' :: (':' :: t.ending))) :=
    List.mem_append_right _ (List.mem_cons_of_mem _ (List.mem_append_right _ hparameters))
  exact ht.one_line (List.mem_cons_of_mem _ (List.mem_append_right _
    (List.mem_cons_of_mem _ (List.mem_append_right _ hcaller))))

/-- The parts in which the sentence is read. -/
def parts (t : Told) : Inlining :=
  ⟨t.callee, t.caller, parametersText t.parameters, ' ' :: t.reason, t.callsite⟩

end Told

end BuildRemarks.Printed
