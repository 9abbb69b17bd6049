import BuildRemarks.Proofs.Record.Places
import Mathlib.Data.List.Forall2
import Mathlib.Data.List.Nodup

/-!
# The order of the keys in an entry

As long as no name stands twice in an entry, the order of its pairs makes no difference to the
arguments. At most one pair of such an entry tells a text under a name, writes an access or holds
the place, and the arguments are known from what each entry tells, writes and holds.
-/

namespace BuildRemarks.Record

open Yaml (Value)
open Remark (Args)

/-- No two keys are strings of the same text, whatever their tags. -/
def DistinctKeys (es : List (Value × Value)) : Prop := (es.filterMap fun e => e.1.text?).Nodup

/-- The second value is the first with the pairs of a mapping with distinct keys in some other
order, or the first itself. -/
inductive Reordered : Value → Value → Prop where
  | same (v : Value) : Reordered v v
  | mapping {es fs : List (Value × Value)} (hperm : es.Perm fs) (hdistinct : DistinctKeys es) :
    Reordered (.mapping es) (.mapping fs)
  | tagged (tag : String) {v w : Value} (h : Reordered v w) :
    Reordered (.tagged tag v) (.tagged tag w)

/-! ### One entry -/

section Entry

variable {es fs : List (Value × Value)}

/-- What only a pair of one name can give is given by the pairs in any order. -/
theorem filterMap_eq_of_perm {α : Type} {f : Value × Value → Option α} (hperm : es.Perm fs)
    (hdistinct : DistinctKeys es) (name : String)
    (hname : ∀ e, f e ≠ none → e.1.text? = some name) : es.filterMap f = fs.filterMap f := by
  have hcount : (es.filterMap f).length ≤ (es.filterMap fun e => e.1.text?).count name := by
    rw [List.length_filterMap_eq_countP, List.count_filterMap]
    refine List.countP_mono_left fun e _ he => ?_
    exact beq_iff_eq.2 (hname e (Option.isSome_iff_ne_none.1 he))
  have hone := List.nodup_iff_count_le_one.1 hdistinct name
  have hfound := hperm.filterMap f
  -- what is given is one thing at most, and that has no other order
  match hes : es.filterMap f with
  | [] =>
    rw [hes] at hfound
    exact hfound.nil_eq
  | [a] =>
    rw [hes] at hfound
    exact (List.perm_singleton.1 hfound.symm).symm
  | _ :: _ :: _ =>
    rw [hes] at hcount
    simp only [List.length_cons] at hcount
    omega

theorem entry?_eq_head? (es : List (Value × Value)) (name : String) :
    Value.entry? es name = (es.filterMap fun e => match e.1 with
      | .string s => if s = name then some e.2 else none
      | _ => none).head? := by
  rw [Value.entry?, List.head?_filterMap]
  induction es with
  | nil => rfl
  | cons e es ih =>
    rw [List.find?_cons, List.findSome?_cons]
    cases e.1 with
    | string s =>
      by_cases hs : s = name
      · simp [hs]
      · have hbeq : (s == name) = false := beq_eq_false_iff_ne.2 hs
        simp only [hbeq, hs, if_false, ih]
    | _ => exact ih

theorem entry?_eq_of_perm (hperm : es.Perm fs) (hdistinct : DistinctKeys es) (name : String) :
    Value.entry? es name = Value.entry? fs name := by
  rw [entry?_eq_head?, entry?_eq_head?, filterMap_eq_of_perm hperm hdistinct name]
  intro e he
  cases hkey : e.1 with
  | string s =>
    simp only [hkey, ne_eq, ite_eq_right_iff, reduceCtorEq, imp_false, not_not] at he
    rw [he]
    rfl
  | _ => simp [hkey] at he

theorem entryLocation?_eq_of_perm (hperm : es.Perm fs) (hdistinct : DistinctKeys es) :
    entryLocation? es = entryLocation? fs := by
  rw [entryLocation?, entryLocation?, entry?_eq_of_perm hperm hdistinct]

theorem ownPlace?_eq_of_perm (hperm : es.Perm fs) (hdistinct : DistinctKeys es) :
    ownPlace? es = ownPlace? fs := by
  rw [ownPlace?, ownPlace?, entryLocation?_eq_of_perm hperm hdistinct, hperm.any_eq]

theorem Slot.written?_eq_of_perm (s : Slot) (hperm : es.Perm fs) (hdistinct : DistinctKeys es) :
    s.written? es = s.written? fs := by
  rw [written?, written?, entryLocation?_eq_of_perm hperm hdistinct,
    filterMap_eq_of_perm hperm hdistinct s.name]
  intro e he
  rw [write?] at he
  by_contra hkey
  exact he (if_neg hkey)

theorem textsUnder_eq_of_perm (hperm : es.Perm fs) (hdistinct : DistinctKeys es)
    (name : String) :
    textsUnder name (es.filterMap told?) = textsUnder name (fs.filterMap told?) := by
  have htexts (es : List (Value × Value)) : textsUnder name (es.filterMap told?) =
      es.filterMap fun e => (told? e).bind fun p => if p.1 = name then some p.2 else none := by
    rw [textsUnder, ← List.filterMap_filterMap, ← List.filterMap_eq_filter,
      ← List.filterMap_eq_map, List.filterMap_filterMap]
    refine List.filterMap_congr fun p _ => ?_
    by_cases hp : p.1 = name <;> simp [Option.guard, hp]
  rw [htexts, htexts, filterMap_eq_of_perm hperm hdistinct name]
  rintro ⟨key, value⟩ he
  rw [told?_eq] at he
  cases hkey : key.text? with
  | none => simp [hkey] at he
  | some other =>
    cases htext : scalarText? value with
    | none => simp [hkey, htext] at he
    | some text =>
      simp only [hkey, htext, Option.map_some, Option.bind_some, ne_eq, ite_eq_right_iff,
        reduceCtorEq, imp_false, not_not] at he
      rw [he]

end Entry

/-! ### All entries -/

variable {entries others : List Value}

theorem Reordered.cases_pairs {v w : Value} (h : Reordered v w) :
    entryPairs v = entryPairs w ∨
      (entryPairs v).Perm (entryPairs w) ∧ DistinctKeys (entryPairs v) := by
  cases h with
  | same => exact Or.inl rfl
  | mapping hperm hdistinct => exact Or.inr ⟨hperm, hdistinct⟩
  | tagged tag h => exact Or.inl rfl

/-- What is the same for pairs in another order is the same for all entries. -/
theorem map_eq_of_reordered {α : Type} {f : List (Value × Value) → α}
    (h : List.Forall₂ Reordered entries others)
    (hf : ∀ es fs, es.Perm fs → DistinctKeys es → f es = f fs) :
    entries.map (fun e => f (entryPairs e)) = others.map fun e => f (entryPairs e) := by
  induction h with
  | nil => rfl
  | cons hentry _ ih =>
    rw [List.map_cons, List.map_cons, ih]
    rcases hentry.cases_pairs with heq | ⟨hperm, hdistinct⟩
    · rw [heq]
    · rw [hf _ _ hperm hdistinct]

theorem filterMap_eq_of_reordered {α : Type} {f : List (Value × Value) → Option α}
    (h : List.Forall₂ Reordered entries others)
    (hf : ∀ es fs, es.Perm fs → DistinctKeys es → f es = f fs) :
    entries.filterMap (fun e => f (entryPairs e)) =
      others.filterMap fun e => f (entryPairs e) := by
  have hmap (entries : List Value) : entries.filterMap (fun e => f (entryPairs e)) =
      (entries.map fun e => f (entryPairs e)).filterMap id := by
    rw [List.filterMap_map]
    rfl
  rw [hmap, hmap, map_eq_of_reordered h hf]

theorem textsUnder_told (name : String) (entries : List Value) :
    textsUnder name (told entries) =
      (entries.map fun e => textsUnder name ((entryPairs e).filterMap told?)).flatten := by
  rw [told, textsUnder, List.filterMap_flatMap, List.filter_flatMap, List.map_flatMap,
    List.flatMap_def]
  rfl

theorem textsUnder_told_of_reordered (h : List.Forall₂ Reordered entries others)
    (name : String) : textsUnder name (told entries) = textsUnder name (told others) := by
  have htexts := map_eq_of_reordered h fun _ _ hperm hdistinct =>
    textsUnder_eq_of_perm hperm hdistinct name
  rw [textsUnder_told, textsUnder_told, htexts]

theorem location_argsOf_of_reordered (h : List.Forall₂ Reordered entries others) :
    (argsOf entries).location = (argsOf others).location := by
  have hown := filterMap_eq_of_reordered h fun _ _ => ownPlace?_eq_of_perm
  rw [location_argsOf, location_argsOf, hown]

theorem Slot.of_argsOf_of_reordered (s : Slot) (h : List.Forall₂ Reordered entries others) :
    s.of (argsOf entries) = s.of (argsOf others) := by
  have hwritten := filterMap_eq_of_reordered h fun _ _ => s.written?_eq_of_perm
  rw [s.of_argsOf, s.of_argsOf, hwritten]

/-- Arguments are known from the texts that are told, their place and their accesses. -/
theorem ToldBy.args_eq {tells others : List (String × String)} {args args' : Args}
    (h : ToldBy tells args) (h' : ToldBy others args')
    (htexts : ∀ name, textsUnder name tells = textsUnder name others)
    (hlocation : args.location = args'.location) (hslots : ∀ s : Slot, s.of args = s.of args') :
    args = args' := by
  have hlast (name : String) : lastUnder? name tells = lastUnder? name others := by
    rw [lastUnder?, lastUnder?, htexts]
  have hother : args.otherAccess = args'.otherAccess := hslots .other
  have hclobbered : args.clobberedBy = args'.clobberedBy := hslots .clobbered
  have hvalues : args.values = args'.values := by
    refine NameMap.ext_get? fun name => ?_
    rw [h.values, h'.values, hlast]
  have hstrings : args.strings = args'.strings := by rw [h.strings, h'.strings, htexts]
  have hcallee : args.callee = args'.callee := by rw [h.callee, h'.callee, hlast]
  have hcaller : args.caller = args'.caller := by rw [h.caller, h'.caller, hlast]
  have htype : args.valueType = args'.valueType := by rw [h.valueType, h'.valueType, hlast]
  have hline : args.line = args'.line := by rw [h.line, h'.line, hlast]
  have hcolumn : args.column = args'.column := by rw [h.column, h'.column, hlast]
  have hcost : args.cost = args'.cost := by rw [h.cost, h'.cost, hlast]
  have hreason : args.reason = args'.reason := by rw [h.reason, h'.reason, hlast]
  cases args
  cases args'
  simp_all only

theorem argsOf_of_reordered (h : List.Forall₂ Reordered entries others) :
    argsOf entries = argsOf others :=
  (toldBy_argsOf entries).args_eq (toldBy_argsOf others) (textsUnder_told_of_reordered h)
    (location_argsOf_of_reordered h) fun s => s.of_argsOf_of_reordered h

/-- A document whose entries have their pairs in another order is accepted as well, and its remark
is the same but for the message. -/
theorem remark?_of_reordered {document : Value} {r : Remark} (h : remark? document = some r)
    (hreordered : List.Forall₂ Reordered (argumentsOf document) others) :
    ∃ message, remark? (withArguments others document) = some { r with message } := by
  obtain ⟨arguments, message, hread, hor⟩ := remark?_withArguments h others
  have harguments : arguments = others := by
    rcases hor with rfl | ⟨hnone, rfl⟩
    · rfl
    · rw [hnone] at hreordered
      exact (List.forall₂_nil_left_iff.1 hreordered).symm
  refine ⟨message, ?_⟩
  rw [hread, harguments, ← argsOf_of_reordered hreordered, ← args_of_remark? h]

/-- The pairs of an access, of the place beside it and of texts, and one of a key that is no
name. -/
def crowdedEntry : List (Value × Value) :=
  [(.string "DebugLoc", .mapping [(.string "File", .string "a.c")]),
    (.string "OtherAccess", .string "load"), (.string "Callee", .string "f"),
    (.null, .string "x"), (.tagged "t" (.string "Cost"), .bool true),
    (.string "String", .string "s"), (.string "Threshold", .string "5")]

def crowdedDocument : Value :=
  .tagged "Missed" (.mapping [(.string "Pass", .string "gvn"), (.string "Name", .string "N"),
    (.string "Args", .sequence [.null, .mapping crowdedEntry])])

theorem remark?_reversedEntry :
    ∃ r, remark? crowdedDocument = some r ∧
      r.args.otherAccess = some ⟨some "load", some { file := some "a.c" }⟩ ∧
      List.Forall₂ Reordered (argumentsOf crowdedDocument)
        [.null, .mapping crowdedEntry.reverse] ∧
      ∃ message, remark? (withArguments [.null, .mapping crowdedEntry.reverse] crowdedDocument) =
        some { r with message } := by
  have hread : (remark? crowdedDocument).map (·.args.otherAccess) =
      some (some ⟨some "load", some { file := some "a.c" }⟩) := by decide +kernel
  obtain ⟨r, hr, hother⟩ := Option.map_eq_some_iff.1 hread
  have hentry : Reordered (.mapping crowdedEntry) (.mapping crowdedEntry.reverse) :=
    .mapping (List.reverse_perm crowdedEntry).symm (by unfold DistinctKeys; decide)
  have hreordered : List.Forall₂ Reordered (argumentsOf crowdedDocument)
      [.null, .mapping crowdedEntry.reverse] := .cons (.same .null) (.cons hentry .nil)
  exact ⟨r, hr, hother, hreordered, remark?_of_reordered hr hreordered⟩

end BuildRemarks.Record
