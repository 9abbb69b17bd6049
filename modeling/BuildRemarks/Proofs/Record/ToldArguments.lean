import BuildRemarks.Proofs.Record.Documents

/-!
# The arguments that entries tell

The entries of a record tell names with texts, one after the other. Texts under `String` are all
kept, in order; of the texts under any other name the last one counts, and whatever has no text
leaves an earlier one alone.
-/

namespace BuildRemarks.Record

open Yaml (Value)
open Remark (Args)

/-- The name and the text that a pair of an entry tells, whatever tags stand before them. Null, a
sequence or a mapping is no text, and only a string is a name. -/
def told? (pair : Value × Value) : Option (String × String) :=
  match pair.1.untagged, pair.2.untagged with
  | .string name, .string text => some (name, text)
  | .string name, .number n => some (name, Yaml.numberText n)
  | .string name, .bool b => some (name, if b then "true" else "false")
  | _, _ => none

/-- The pairs of an entry. Only a mapping without tags has any. -/
def entryPairs : Value → List (Value × Value)
  | .mapping es => es
  | _ => []

/-- What the entries tell, in their order. -/
def told (entries : List Value) : List (String × String) :=
  (entries.flatMap entryPairs).filterMap told?

def textsUnder (name : String) (tells : List (String × String)) : List String :=
  (tells.filter fun p => p.1 = name).map (·.2)

def lastUnder? (name : String) (tells : List (String × String)) : Option String :=
  (textsUnder name tells).getLast?

/-- The names whose texts have a field of their own. -/
def textNames : List String :=
  ["String", "Callee", "Caller", "Type", "Line", "Column", "Cost", "Reason"]

/-- The names under which an access or a place stands. -/
def placeNames : List String := ["OtherAccess", "ClobberedBy", "DebugLoc"]

/-- The texts of the arguments are those that are told. -/
structure ToldBy (tells : List (String × String)) (args : Args) : Prop where
  strings : args.strings = textsUnder "String" tells
  callee : args.callee = lastUnder? "Callee" tells
  caller : args.caller = lastUnder? "Caller" tells
  valueType : args.valueType = lastUnder? "Type" tells
  line : args.line = lastUnder? "Line" tells
  column : args.column = lastUnder? "Column" tells
  cost : args.cost = lastUnder? "Cost" tells
  reason : args.reason = lastUnder? "Reason" tells
  values : ∀ name, args.values.get? name =
    if name ∈ textNames ++ placeNames then none else lastUnder? name tells

/-! ### One pair more -/

theorem told?_eq (key value : Value) :
    told? (key, value) = key.text?.bind fun name => (scalarText? value).map fun text =>
      (name, text) := by
  rw [told?, Value.text?, scalarText?]
  cases key.untagged with
  | string name => cases value.untagged <;> rfl
  | _ => rfl

theorem textsUnder_append (name : String) (tells more : List (String × String)) :
    textsUnder name (tells ++ more) = textsUnder name tells ++ textsUnder name more := by
  rw [textsUnder, List.filter_append, List.map_append, textsUnder, textsUnder]

theorem textsUnder_concat (name : String) (tells : List (String × String)) (other text : String) :
    textsUnder name (tells ++ [(other, text)]) =
      if other = name then textsUnder name tells ++ [text] else textsUnder name tells := by
  rw [textsUnder_append]
  by_cases h : other = name <;> simp [textsUnder, h]

theorem lastUnder?_concat (name : String) (tells : List (String × String))
    (other text : String) :
    lastUnder? name (tells ++ [(other, text)]) =
      if other = name then some text else lastUnder? name tells := by
  rw [lastUnder?, textsUnder_concat]
  split
  · exact List.getLast?_concat
  · rfl

theorem toldBy_none : ToldBy [] Args.none := by
  constructor <;> try rfl
  intro name
  split <;> rfl

variable {tells : List (String × String)} {args : Args}

/-- What is told under the name of a field is no argument of another name. -/
theorem ToldBy.values_concat (h : ToldBy tells args) {other : String}
    (hother : other ∈ textNames ++ placeNames) (text name : String) :
    args.values.get? name =
      if name ∈ textNames ++ placeNames then none
      else lastUnder? name (tells ++ [(other, text)]) := by
  rw [h.values, lastUnder?_concat]
  by_cases hname : name ∈ textNames ++ placeNames
  · rw [if_pos hname, if_pos hname]
  · have hne : other ≠ name := fun e => hname (e ▸ hother)
    rw [if_neg hname, if_neg hname, if_neg hne]

/-- What is told under another name than those of the texts can only change the values. -/
theorem ToldBy.concat (h : ToldBy tells args) {name : String} (hname : name ∉ textNames)
    (text : String) {values : NameMap String}
    (hvalues : ∀ other, values.get? other = if other ∈ textNames ++ placeNames then none
      else lastUnder? other (tells ++ [(name, text)])) :
    ToldBy (tells ++ [(name, text)]) { args with values } := by
  have hne {other : String} (hother : other ∈ textNames) : name ≠ other :=
    fun e => hname (e ▸ hother)
  have hlast {other : String} (hother : other ∈ textNames) :
      lastUnder? other (tells ++ [(name, text)]) = lastUnder? other tells := by
    rw [lastUnder?_concat, if_neg (hne hother)]
  constructor
  case strings => rw [textsUnder_concat, if_neg (hne (by decide)), h.strings]
  case values => exact hvalues
  all_goals rw [hlast (by decide)]
  · exact h.callee
  · exact h.caller
  · exact h.valueType
  · exact h.line
  · exact h.column
  · exact h.cost
  · exact h.reason

theorem ToldBy.skip (h : ToldBy tells args) {name : String} (hname : name ∈ placeNames)
    (text : String) : ToldBy (tells ++ [(name, text)]) args := by
  have hnot : name ∉ textNames := by
    intro hmem
    have hdisjoint : ∀ other ∈ textNames, other ∉ placeNames := by decide
    exact hdisjoint name hmem hname
  exact h.concat hnot text (h.values_concat (List.mem_append_right _ hname) text)

theorem ToldBy.setNamed (h : ToldBy tells args) {name : String} (hplace : name ∉ placeNames)
    (text : String) : ToldBy (tells ++ [(name, text)]) (setNamed args name text) := by
  rw [Record.setNamed.eq_def]
  split
  case h_9 hstring hcallee hcaller htype hline hcolumn hcost hreason =>
    have hname : name ∉ textNames := by
      simp only [textNames, List.mem_cons, List.not_mem_nil, or_false, not_or]
      exact ⟨hstring, hcallee, hcaller, htype, hline, hcolumn, hcost, hreason⟩
    refine h.concat hname text fun other => ?_
    rw [NameMap.get?_insert, lastUnder?_concat, h.values]
    by_cases hother : other = name
    · have hnot : name ∉ textNames ++ placeNames := by
        rw [List.mem_append, not_or]
        exact ⟨hname, hplace⟩
      rw [if_pos hother, hother, if_neg hnot, if_pos rfl]
    · have hne : ¬ name = other := fun e => hother e.symm
      rw [if_neg hother, if_neg hne]
  -- a name of a text: its field has the text, and the others are as before
  all_goals
    constructor
    case values => exact h.values_concat (by decide) text
    all_goals simp [textsUnder_concat, lastUnder?_concat, h.strings, h.callee, h.caller,
      h.valueType, h.line, h.column, h.cost, h.reason]

/-! ### Whole entries -/

theorem ToldBy.addPair (h : ToldBy tells args) (beside : Option Location)
    (pair : Value × Value) :
    ToldBy (tells ++ (told? pair).toList) (addPair beside args pair) := by
  obtain ⟨key, value⟩ := pair
  have hskip (name : String) (hname : name ∈ placeNames) :
      ToldBy (tells ++ ((scalarText? value).map fun text => (name, text)).toList) args := by
    cases scalarText? value with
    | none => exact (List.append_nil tells).symm ▸ h
    | some text => exact h.skip hname text
  rw [told?_eq, Record.addPair.eq_def]
  dsimp only
  split
  · rename_i hkey
    rw [hkey]
    exact (List.append_nil tells).symm ▸ h
  · rename_i hkey
    rw [hkey]
    exact { hskip "OtherAccess" (by decide) with }
  · rename_i hkey
    rw [hkey]
    exact { hskip "ClobberedBy" (by decide) with }
  · rename_i hkey
    rw [hkey]
    exact hskip "DebugLoc" (by decide)
  · rename_i name hother hclobbered hplace hkey
    rw [hkey]
    have hname : name ∉ placeNames := by
      simp only [placeNames, List.mem_cons, List.not_mem_nil, or_false, not_or]
      exact ⟨hother, hclobbered, hplace⟩
    cases scalarText? value with
    | none => exact (List.append_nil tells).symm ▸ h
    | some text => exact h.setNamed hname text

theorem ToldBy.addPairs (h : ToldBy tells args) (beside : Option Location)
    (es : List (Value × Value)) :
    ToldBy (tells ++ es.filterMap told?) (es.foldl (Record.addPair beside) args) := by
  induction es generalizing tells args with
  | nil => exact (List.append_nil tells).symm ▸ h
  | cons e es ih =>
    have hmore := ih (h.addPair beside e)
    rw [List.append_assoc] at hmore
    rw [List.foldl_cons, List.filterMap_cons]
    cases he : told? e with
    | none =>
      rw [he] at hmore
      exact hmore
    | some p =>
      rw [he] at hmore
      exact hmore

theorem ToldBy.addArgument (h : ToldBy tells args) (entry : Value) :
    ToldBy (tells ++ (entryPairs entry).filterMap told?) (addArgument args entry) := by
  cases entry with
  | mapping es =>
    rw [Record.addArgument, addEntry, entryPairs]
    -- the place of the entry is no text
    generalize entryLocation? es = beside
    have hpairs := h.addPairs beside es
    split
    · exact hpairs
    · cases beside with
      | none => exact hpairs
      | some location => exact { hpairs with }
  | _ => exact (List.append_nil tells).symm ▸ h

theorem toldBy_argsOf (entries : List Value) : ToldBy (told entries) (argsOf entries) := by
  have hall (tells : List (String × String)) (args : Args) (h : ToldBy tells args) :
      ToldBy (tells ++ told entries) (entries.foldl Record.addArgument args) := by
    induction entries generalizing tells args with
    | nil => exact (List.append_nil tells).symm ▸ h
    | cons entry entries ih =>
      have hmore := ih _ _ (h.addArgument entry)
      rw [told, List.flatMap_cons, List.filterMap_append, List.foldl_cons, ← List.append_assoc]
      exact hmore
  exact hall [] Args.none toldBy_none

/-- The arguments of a remark are what the entries of its document tell. -/
theorem toldBy_of_remark? {document : Value} {r : Remark} (h : remark? document = some r) :
    ToldBy (told (argumentsOf document)) r.args := by
  obtain ⟨status, body, hbody, rfl⟩ := exists_body_of_remark? h
  rw [hbody.arguments]
  exact toldBy_argsOf body.arguments

/-- Two texts of a callee and a null behind them, a text under a number, an entry with a tag and a
cost with a tag. -/
def mixedDocument : Value :=
  .tagged "Passed" (.mapping [
    (.string "Pass", .string "inline"),
    (.string "Name", .string "Inlined"),
    (.string "Args", .sequence [
      .mapping [(.string "Callee", .string "first"), (.string "String", .string "a")],
      .mapping [(.tagged "t" (.string "Callee"), .bool true),
        (.number (.integer (.ofUInt64 7)), .string "x")],
      .mapping [(.string "Callee", .null), (.string "Threshold", .sequence []),
        (.string "Cost", .tagged "t" (.number (.integer (.ofInt64 (-30)))))],
      .tagged "t" (.mapping [(.string "String", .string "hidden")]),
      .mapping [(.string "String", .string "b"), (.string "Threshold", .string "225")]])])

theorem toldBy_mixedDocument :
    ∃ r, remark? mixedDocument = some r ∧ r.args.strings = ["a", "b"] ∧
      r.args.callee = some "true" ∧ ToldBy (told (argumentsOf mixedDocument)) r.args := by
  have hread : (remark? mixedDocument).map (fun r => (r.args.strings, r.args.callee)) =
      some (["a", "b"], some "true") := by decide +kernel
  obtain ⟨r, hr, htold⟩ := Option.map_eq_some_iff.1 hread
  obtain ⟨hstrings, hcallee⟩ := Prod.mk.inj htold
  exact ⟨r, hr, hstrings, hcallee, toldBy_of_remark? hr⟩

end BuildRemarks.Record
