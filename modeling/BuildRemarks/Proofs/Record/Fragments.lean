import BuildRemarks.Proofs.Record.ToldArguments

/-!
# The fragments of a message

Where no callee, caller or type is told, the message of a record is its start and the texts under
`String` behind it. The message looks through the tags of an entry and the arguments do not, so a
text in an entry with a tag is shown but not kept: message and arguments agree exactly if all such
texts are empty.
-/

namespace BuildRemarks.Record

open Yaml (Value)

/-- The texts under `String` in an entry, whatever its tags. -/
def fragments (entry : Value) : List String :=
  textsUnder "String" ((entry.entries?.getD []).filterMap told?)

def hasTag : Value → Bool
  | .tagged .. => true
  | _ => false

/-- No entry has a key for a callee, a caller or a type. -/
def OnlyFragments (entries : List Value) : Prop :=
  ∀ entry ∈ entries, ∀ pair ∈ entry.entries?.getD [],
    ∀ name ∈ ["Callee", "Caller", "Type"], pair.1.text? ≠ some name

/-! ### What is shown -/

theorem pair_of_no_callee {d : Draft} (h : d.callee = none) : d.pair = d := by
  rw [Draft.pair, h]

theorem add_of_other {name : String}
    (h : name ∉ ["String", "Callee", "Caller", "Type"]) (d : Draft) (text : String) :
    d.add (some name) text = d := by
  simp only [List.mem_cons, List.not_mem_nil, or_false, not_or] at h
  obtain ⟨hstring, hcallee, hcaller, htype⟩ := h
  rw [Draft.add.eq_def]
  split
  · rename_i heq
    exact absurd (Option.some.inj heq) hstring
  · rename_i heq
    exact absurd (Option.some.inj heq) hcallee
  · rename_i heq
    exact absurd (Option.some.inj heq) hcaller
  · rename_i heq
    exact absurd (Option.some.inj heq) htype
  · rfl

/-- A pair that tells a text under `String` shows it; any other shows nothing. -/
theorem addPair_of_onlyFragments {d : Draft} (hcallee : d.callee = none) {pair : Value × Value}
    (h : ∀ name ∈ ["Callee", "Caller", "Type"], pair.1.text? ≠ some name) :
    d.addPair pair = { d with
      text := d.text ++ (textsUnder "String" (told? pair).toList).flatMap String.toList } := by
  obtain ⟨key, value⟩ := pair
  have hsame : d = { d with text := d.text ++ [] } := by rw [List.append_nil]
  rw [told?_eq, Draft.addPair]
  cases scalarText? value with
  | none =>
    cases key.text? <;> exact hsame
  | some text =>
    cases hkey : key.text? with
    | none => exact (pair_of_no_callee hcallee).trans hsame
    | some name =>
      have hname : name ∉ ["Callee", "Caller", "Type"] := fun hmem => h name hmem hkey
      by_cases hstring : name = "String"
      · subst hstring
        have hshown : (textsUnder "String" [("String", text)]).flatMap String.toList =
            text.toList := List.append_nil text.toList
        show (d.add (some "String") text).pair =
          { d with
            text := d.text ++ (textsUnder "String" [("String", text)]).flatMap String.toList }
        rw [hshown]
        exact pair_of_no_callee hcallee
      · have hother : name ∉ ["String", "Callee", "Caller", "Type"] :=
          List.not_mem_cons_of_ne_of_not_mem hstring hname
        have hnothing : textsUnder "String" [(name, text)] = [] := by
          simp [textsUnder, hstring]
        show (d.add (some name) text).pair =
          { d with text := d.text ++ (textsUnder "String" [(name, text)]).flatMap String.toList }
        rw [hnothing, add_of_other hother]
        exact (pair_of_no_callee hcallee).trans hsame

theorem text_foldl_addPair {d : Draft} (hcallee : d.callee = none) {es : List (Value × Value)}
    (h : ∀ pair ∈ es, ∀ name ∈ ["Callee", "Caller", "Type"], pair.1.text? ≠ some name) :
    (es.foldl Draft.addPair d).text =
      d.text ++ (textsUnder "String" (es.filterMap told?)).flatMap String.toList := by
  induction es generalizing d with
  | nil => exact (List.append_nil d.text).symm
  | cons e es ih =>
    have hstep := addPair_of_onlyFragments hcallee (h e List.mem_cons_self)
    have hkeeps : (d.addPair e).callee = none := by rw [hstep, hcallee]
    have hrest := ih hkeeps fun pair hpair => h pair (List.mem_cons_of_mem e hpair)
    have hsplit : (e :: es).filterMap told? = (told? e).toList ++ es.filterMap told? := by
      rw [List.filterMap_cons]
      cases told? e <;> rfl
    rw [List.foldl_cons, hrest, hstep, hsplit, textsUnder_append, List.flatMap_append,
      List.append_assoc]

theorem textsUnder_flatMap (name : String) (f : Value → List (Value × Value))
    (entries : List Value) :
    textsUnder name ((entries.flatMap f).filterMap told?) =
      entries.flatMap fun entry => textsUnder name ((f entry).filterMap told?) := by
  rw [textsUnder, List.filterMap_flatMap, List.filter_flatMap, List.map_flatMap]
  rfl

theorem message_of_onlyFragments (pass name : String) {entries : List Value}
    (h : OnlyFragments entries) :
    message pass name entries =
      pass ++ ": " ++ name ++ String.join (entries.flatMap fragments) := by
  have hpairs : ∀ pair ∈ pairs entries, ∀ name ∈ ["Callee", "Caller", "Type"],
      pair.1.text? ≠ some name := by
    intro pair hpair
    obtain ⟨entry, hentry, hmem⟩ := List.mem_flatMap.1 hpair
    exact h entry hentry pair hmem
  have htext := text_foldl_addPair (d := { text := messageStart pass name }) rfl hpairs
  rw [message, htext, ← String.toList_inj, String.toList_ofList, pairs, textsUnder_flatMap]
  simp only [messageStart, String.toList_append, String.toList_join]
  rfl

/-! ### What is kept -/

/-- The texts under `String` in an entry that has no tag. -/
def keptFragments (entry : Value) : List String :=
  textsUnder "String" ((entryPairs entry).filterMap told?)

theorem strings_argsOf (entries : List Value) :
    (argsOf entries).strings = entries.flatMap keptFragments := by
  rw [(toldBy_argsOf entries).strings, told, textsUnder_flatMap]
  rfl

theorem keptFragments_eq (entry : Value) :
    keptFragments entry = if hasTag entry then [] else fragments entry := by
  cases entry <;> rfl

/-- Two joins of which the parts of one are those of the other or empty are equal only if their
parts are. -/
theorem flatMap_eq_flatMap_iff {α β : Type} {f g : α → List β} {as : List α}
    (h : ∀ a ∈ as, f a = [] ∨ f a = g a) :
    as.flatMap f = as.flatMap g ↔ ∀ a ∈ as, f a = g a := by
  have hle (as : List α) (h : ∀ a ∈ as, f a = [] ∨ f a = g a) :
      (as.flatMap f).length ≤ (as.flatMap g).length := by
    induction as with
    | nil => exact Nat.le_refl 0
    | cons a as ih =>
      have hrest := ih fun b hb => h b (List.mem_cons_of_mem a hb)
      rw [List.flatMap_cons, List.flatMap_cons, List.length_append, List.length_append]
      rcases h a List.mem_cons_self with ha | ha
      · rw [ha, List.length_nil]
        omega
      · rw [ha]
        omega
  induction as with
  | nil => simp
  | cons a as ih =>
    have hrest : ∀ b ∈ as, f b = [] ∨ f b = g b := fun b hb => h b (List.mem_cons_of_mem a hb)
    have hiff : as.flatMap f = as.flatMap g ↔ ∀ b ∈ as, f b = g b := ih hrest
    rw [List.flatMap_cons, List.flatMap_cons, List.forall_mem_cons, ← hiff]
    rcases h a List.mem_cons_self with ha | ha
    · constructor
      · intro heq
        have hlength := congrArg List.length heq
        have hbound := hle as hrest
        simp only [ha, List.nil_append, List.length_append] at hlength
        have hnil : g a = [] := List.length_eq_zero_iff.1 (by omega)
        rw [ha, hnil] at heq
        exact ⟨ha.trans hnil.symm, heq⟩
      · rintro ⟨heq, heq'⟩
        rw [heq, heq']
    · rw [ha, List.append_cancel_left_eq]
      exact (and_iff_right rfl).symm

theorem join_strings_argsOf_iff (entries : List Value) :
    String.join (entries.flatMap fragments) = String.join (argsOf entries).strings ↔
      ∀ entry ∈ entries, hasTag entry = true → ∀ text ∈ fragments entry, text = "" := by
  have hkept (entry : Value) :
      (keptFragments entry).flatMap String.toList = [] ∨
        (keptFragments entry).flatMap String.toList =
          (fragments entry).flatMap String.toList := by
    rw [keptFragments_eq]
    split
    · exact Or.inl rfl
    · exact Or.inr rfl
  rw [strings_argsOf, eq_comm, ← String.toList_inj, String.toList_join, String.toList_join,
    List.flatMap_assoc, List.flatMap_assoc, flatMap_eq_flatMap_iff fun entry _ => hkept entry]
  refine forall_congr' fun entry => forall_congr' fun _ => ?_
  rw [keptFragments_eq]
  cases hasTag entry with
  | false => simp only [Bool.false_eq_true, if_false, false_implies]
  | true =>
    rw [if_pos rfl, List.flatMap_nil, eq_comm, List.flatMap_eq_nil_iff]
    simp only [String.toList_eq_nil_iff, forall_const]

/-- The message of a remark whose entries hold fragments only is the start and what they show; its
arguments keep the same texts unless one that is not empty stands in an entry with a tag. -/
theorem message_eq_iff_of_remark? {document : Value} {r : Remark}
    (h : remark? document = some r) (honly : OnlyFragments (argumentsOf document)) :
    ∃ pass name, textUnder? document "Pass" = some pass ∧
      textUnder? document "Name" = some name ∧
      r.message = pass ++ ": " ++ name ++
        String.join ((argumentsOf document).flatMap fragments) ∧
      (r.message = pass ++ ": " ++ name ++ String.join r.args.strings ↔
        ∀ entry ∈ argumentsOf document, hasTag entry = true →
          ∀ text ∈ fragments entry, text = "") := by
  obtain ⟨status, body, hbody, rfl⟩ := exists_body_of_remark? h
  rw [hbody.arguments] at honly ⊢
  have hmessage : (body.remark status).message = body.pass ++ ": " ++ body.name ++
      String.join (body.arguments.flatMap fragments) :=
    message_of_onlyFragments body.pass body.name honly
  refine ⟨body.pass, body.name, hbody.pass, hbody.name, hmessage, ?_⟩
  rw [hmessage, ← join_strings_argsOf_iff]
  constructor
  · intro heq
    exact String.append_right_inj _ |>.1 heq
  · intro heq
    rw [heq]
    rfl

def inliningDocument (entries : List Value) : Value :=
  .tagged "Passed" (.mapping [(.string "Pass", .string "inline"), (.string "Name", .string "N"),
    (.string "Args", .sequence entries)])

/-- Numbers and tags among the fragments, and an entry with a tag whose text is empty. -/
def scatteredFragments : List Value :=
  [.mapping [(.string "String", .string " a"), (.string "Cost", .string "5"),
      (.tagged "t" (.string "String"), .number (.integer (.ofUInt64 7)))],
    .sequence [],
    .tagged "t" (.mapping [(.string "String", .string "")]),
    .mapping [(.string "String", .null), (.null, .string "x")],
    .mapping [(.string "String", .tagged "t" (.bool true))]]

theorem message_scatteredFragments :
    ∃ r, remark? (inliningDocument scatteredFragments) = some r ∧
      OnlyFragments (argumentsOf (inliningDocument scatteredFragments)) ∧
      ∃ pass name, textUnder? (inliningDocument scatteredFragments) "Pass" = some pass ∧
        textUnder? (inliningDocument scatteredFragments) "Name" = some name ∧
        r.message = pass ++ ": " ++ name ++
          String.join ((argumentsOf (inliningDocument scatteredFragments)).flatMap fragments) ∧
        (r.message = pass ++ ": " ++ name ++ String.join r.args.strings ↔
          ∀ entry ∈ argumentsOf (inliningDocument scatteredFragments), hasTag entry = true →
            ∀ text ∈ fragments entry, text = "") := by
  have hread : (remark? (inliningDocument scatteredFragments)).isSome = true := by
    decide +kernel
  obtain ⟨r, hr⟩ := Option.isSome_iff_exists.1 hread
  have honly : OnlyFragments (argumentsOf (inliningDocument scatteredFragments)) := by
    rw [OnlyFragments]
    decide +kernel
  exact ⟨r, hr, honly, message_eq_iff_of_remark? hr honly⟩

def taggedFragment : Value := .tagged "t" (.mapping [(.string "String", .string "hello")])

/-- A text in an entry with a tag is shown and not kept. -/
theorem not_message_eq_strings :
    ¬ ∀ document r pass name, remark? document = some r →
      OnlyFragments (argumentsOf document) → textUnder? document "Pass" = some pass →
      textUnder? document "Name" = some name →
      r.message = pass ++ ": " ++ name ++ String.join r.args.strings := by
  intro hall
  have hread : (remark? (inliningDocument [taggedFragment])).map
      (fun r => (r.message, r.args.strings)) = some ("inline: Nhello", []) := by
    decide +kernel
  obtain ⟨r, hr, htold⟩ := Option.map_eq_some_iff.1 hread
  obtain ⟨hmessage, hstrings⟩ := Prod.mk.inj htold
  have honly : OnlyFragments (argumentsOf (inliningDocument [taggedFragment])) := by
    rw [OnlyFragments]
    decide +kernel
  have hagree := hall _ r "inline" "N" hr honly (by decide +kernel) (by decide +kernel)
  rw [hmessage, hstrings] at hagree
  exact absurd hagree (by decide)

end BuildRemarks.Record
