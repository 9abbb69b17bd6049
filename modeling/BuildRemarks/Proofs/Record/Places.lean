import BuildRemarks.Proofs.NameMap
import BuildRemarks.Proofs.Record.ToldArguments

/-!
# Whose place it is

A place in an entry is that of the entry, unless an access stands beside it; then it is that of the
access, which may hold a nearer place. The last entry with a place of its own gives the place of the
arguments, and what stands last under the name of an access gives the access, with nothing from
another entry. A place that cannot be read is none, and nothing else comes of it.
-/

namespace BuildRemarks.Record

open Yaml (Value)
open Remark (Args Access)

/-- The keys of the entries are strings without tags. -/
def PlainKeys (entries : List Value) : Prop :=
  ∀ entry ∈ entries, ∀ pair ∈ entryPairs entry, ∃ name, pair.1 = .string name

def HasKey (name : String) (entry : Value) : Prop := ∃ v, (.string name, v) ∈ entryPairs entry

/-- Under `DebugLoc` in the mapping stands a place that can be read. -/
def HoldsPlace (mapping : Value) (place : Location) : Prop :=
  ∃ v, Value.entry? (entryPairs mapping) "DebugLoc" = some v ∧ location? v = some place

structure OwnsPlace (entry : Value) (place : Location) : Prop where
  holds : HoldsPlace entry place
  no_other : ¬ HasKey "OtherAccess" entry
  no_clobbered : ¬ HasKey "ClobberedBy" entry

/-- The last of the elements with a property. -/
def IsLast {α : Type} (P : α → Prop) (as : List α) (a : α) : Prop :=
  ∃ before after, as = before ++ a :: after ∧ P a ∧ ∀ b ∈ after, ¬ P b

/-- The value stands last under the name, in this entry. -/
structure StandsLast (name : String) (entries : List Value) (entry v : Value) : Prop where
  last_entry : IsLast (HasKey name) entries entry
  last_pair : IsLast (fun pair => pair.1 = .string name) (entryPairs entry) (.string name, v)

/-- The access that a value of an entry describes. Only a mapping without tags has members; any
other value may be the type itself. -/
structure DescribedBy (entry v : Value) (found : Access) : Prop where
  type_of_text : (∀ es, v ≠ .mapping es) → found.type = scalarText? v
  type_of_member : ∀ es, v = .mapping es →
    ∀ type, Value.entry? es "Type" = some type → found.type = scalarText? type
  type_of_lower : ∀ es, v = .mapping es → Value.entry? es "Type" = none →
    found.type = (Value.entry? es "type").bind scalarText?
  nested : ∀ place, HoldsPlace v place → found.location = some place
  beside : (∀ place, ¬ HoldsPlace v place) →
    ∀ place, HoldsPlace entry place → found.location = some place
  nowhere : (∀ place, ¬ HoldsPlace v place) → (∀ place, ¬ HoldsPlace entry place) →
    found.location = none

/-- The places and accesses of the arguments, and the entries that they come from. -/
structure PlacedBy (entries : List Value) (args : Args) : Prop where
  location_iff : ∀ place, args.location = some place ↔
    ∃ entry, IsLast (fun e => ∃ p, OwnsPlace e p) entries entry ∧ OwnsPlace entry place
  no_location_iff : args.location = none ↔
    ∀ entry ∈ entries, ∀ place, ¬ OwnsPlace entry place
  other_iff : ∀ found, args.otherAccess = some found ↔
    ∃ entry v, StandsLast "OtherAccess" entries entry v ∧ DescribedBy entry v found
  clobbered_iff : ∀ found, args.clobberedBy = some found ↔
    ∃ entry v, StandsLast "ClobberedBy" entries entry v ∧ DescribedBy entry v found

/-! ### What is written last -/

theorem getLast?_filterMap_eq_some_iff {α β : Type} {f : α → Option β} {as : List α}
    {b : β} :
    (as.filterMap f).getLast? = some b ↔
      ∃ a, IsLast (fun a => f a ≠ none) as a ∧ f a = some b := by
  -- the last element is found as the first from behind
  rw [List.getLast?_filterMap, List.findSome?_eq_some_iff]
  constructor
  · rintro ⟨after, a, before, hsplit, hb, hnone⟩
    have hsplit := congrArg List.reverse hsplit
    rw [List.reverse_reverse, List.reverse_append, List.reverse_cons, List.append_assoc] at hsplit
    refine ⟨a, ⟨before.reverse, after.reverse, hsplit, by simp [hb], fun c hc => ?_⟩, hb⟩
    exact not_not_intro (hnone c (List.mem_reverse.1 hc))
  · rintro ⟨a, ⟨before, after, rfl, -, hnone⟩, hb⟩
    refine ⟨after.reverse, a, before.reverse, by simp, hb, fun c hc => ?_⟩
    exact Classical.not_not.1 (hnone c (List.mem_reverse.1 hc))

theorem IsLast.congr {α : Type} {P Q : α → Prop} {as : List α} {a : α}
    (h : ∀ b ∈ as, P b ↔ Q b) : IsLast P as a ↔ IsLast Q as a := by
  have himp {P Q : α → Prop} (h : ∀ b ∈ as, P b ↔ Q b) (hlast : IsLast P as a) :
      IsLast Q as a := by
    obtain ⟨before, after, rfl, ha, hafter⟩ := hlast
    refine ⟨before, after, rfl, (h a (by simp)).1 ha, fun b hb => ?_⟩
    exact mt (h b (by simp [hb])).2 (hafter b hb)
  exact ⟨himp h, himp fun b hb => (h b hb).symm⟩

theorem IsLast.mem {α : Type} {P : α → Prop} {as : List α} {a : α} (h : IsLast P as a) :
    a ∈ as := by
  obtain ⟨before, after, rfl, -, -⟩ := h
  simp

/-! ### One entry more -/

inductive Slot where
  | other
  | clobbered

def Slot.name : Slot → String
  | other => "OtherAccess"
  | clobbered => "ClobberedBy"

def Slot.of (args : Args) : Slot → Option Access
  | other => args.otherAccess
  | clobbered => args.clobberedBy

/-- What a pair writes into a slot. -/
def Slot.write? (s : Slot) (beside : Option Location) (pair : Value × Value) : Option Access :=
  if pair.1.text? = some s.name then some (access beside pair.2) else none

/-- What an entry writes into a slot. -/
def Slot.written? (s : Slot) (es : List (Value × Value)) : Option Access :=
  (es.filterMap (s.write? (entryLocation? es))).getLast?

/-- The place of an entry, unless it is that of an access. -/
def ownPlace? (es : List (Value × Value)) : Option Location :=
  if es.any fun e => namesAccess e.1 then none else entryLocation? es

theorem places_setNamed (args : Args) (name text : String) :
    (setNamed args name text).location = args.location ∧
      ∀ s : Slot, s.of (setNamed args name text) = s.of args := by
  rw [setNamed.eq_def]
  split <;> exact ⟨rfl, fun s => by cases s <;> rfl⟩

theorem location_addPair (beside : Option Location) (args : Args) (pair : Value × Value) :
    (addPair beside args pair).location = args.location := by
  rw [addPair.eq_def]
  split <;> try rfl
  split
  · exact (places_setNamed args _ _).1
  · rfl

theorem Slot.of_addPair (s : Slot) (beside : Option Location) (args : Args)
    (pair : Value × Value) :
    s.of (addPair beside args pair) = (s.write? beside pair).or (s.of args) := by
  rw [addPair.eq_def, Slot.write?]
  split
  · rename_i hkey
    simp [hkey]
  · rename_i hkey
    cases s <;> simp [hkey, Slot.name, Slot.of]
  · rename_i hkey
    cases s <;> simp [hkey, Slot.name, Slot.of]
  · rename_i hkey
    cases s <;> simp [hkey, Slot.name]
  · rename_i name hother hclobbered hplace hkey
    have hname : name ≠ s.name := by
      cases s
      · exact hother
      · exact hclobbered
    have hwrite : ¬ pair.1.text? = some s.name := by simp [hkey, hname]
    rw [if_neg hwrite]
    split
    · exact (places_setNamed args _ _).2 s
    · rfl

theorem location_addEntry (args : Args) (es : List (Value × Value)) :
    (addEntry args es).location = (ownPlace? es).or args.location := by
  have hpairs : (es.foldl (addPair (entryLocation? es)) args).location = args.location :=
    foldl_keeps Args.location (location_addPair _) args es
  unfold addEntry ownPlace?
  generalize entryLocation? es = beside at hpairs ⊢
  split
  · exact hpairs
  · cases beside with
    | none => exact hpairs
    | some place => rfl

theorem Slot.of_addEntry (s : Slot) (args : Args) (es : List (Value × Value)) :
    s.of (addEntry args es) = (s.written? es).or (s.of args) := by
  have hpairs : s.of (es.foldl (addPair (entryLocation? es)) args) =
      (s.written? es).or (s.of args) :=
    foldl_writes s.of (s.of_addPair _) args es
  unfold addEntry
  generalize entryLocation? es = beside at hpairs ⊢
  split
  · exact hpairs
  · cases beside with
    | none => exact hpairs
    | some place => cases s <;> exact hpairs

theorem addArgument_eq (args : Args) (entry : Value) :
    addArgument args entry = addEntry args (entryPairs entry) := by
  cases entry <;> rfl

theorem location_argsOf (entries : List Value) :
    (argsOf entries).location =
      (entries.filterMap fun e => ownPlace? (entryPairs e)).getLast? := by
  have hstep (args : Args) (entry : Value) :
      (addArgument args entry).location =
        (ownPlace? (entryPairs entry)).or args.location := by
    rw [addArgument_eq, location_addEntry]
  exact (foldl_writes Args.location hstep .none entries).trans Option.or_none

theorem Slot.of_argsOf (s : Slot) (entries : List Value) :
    s.of (argsOf entries) = (entries.filterMap fun e => s.written? (entryPairs e)).getLast? := by
  have hstep (args : Args) (entry : Value) :
      s.of (addArgument args entry) = (s.written? (entryPairs entry)).or (s.of args) := by
    rw [addArgument_eq, of_addEntry]
  have hnone : s.of Args.none = none := by cases s <;> rfl
  have hall := foldl_writes s.of hstep .none entries
  rw [hnone, Option.or_none] at hall
  exact hall

/-! ### Accesses and the places beside them -/

variable {entries : List Value} {entry v : Value} {place : Location} {found : Access}

theorem entryLocation?_eq_some_iff :
    entryLocation? (entryPairs entry) = some place ↔ HoldsPlace entry place :=
  Option.bind_eq_some_iff

theorem entryLocation?_eq_none_iff :
    entryLocation? (entryPairs entry) = none ↔ ∀ place, ¬ HoldsPlace entry place := by
  simp only [Option.eq_none_iff_forall_ne_some, ne_eq, entryLocation?_eq_some_iff]

theorem location_access (beside : Option Location) (v : Value) :
    (access beside v).location = (entryLocation? (entryPairs v)).or beside := by
  cases v <;> rfl

theorem describedBy_access (entry v : Value) :
    DescribedBy entry v (access (entryLocation? (entryPairs entry)) v) where
  type_of_text hv := by
    cases v with
    | mapping es => exact absurd rfl (hv es)
    | _ => rfl
  type_of_member es hv type htype := by
    subst hv
    simp [access, htype]
  type_of_lower es hv hnone := by
    subst hv
    simp [access, hnone]
  nested place hplace := by
    rw [location_access, entryLocation?_eq_some_iff.2 hplace, Option.some_or]
  beside hnone place hplace := by
    rw [location_access, entryLocation?_eq_none_iff.2 hnone, Option.none_or,
      entryLocation?_eq_some_iff.2 hplace]
  nowhere hnone hbeside := by
    rw [location_access, entryLocation?_eq_none_iff.2 hnone, Option.none_or,
      entryLocation?_eq_none_iff.2 hbeside]

theorem DescribedBy.type_eq (h : DescribedBy entry v found) {other : Access}
    (hother : DescribedBy entry v other) : found.type = other.type := by
  by_cases hv : ∃ es, v = .mapping es
  · obtain ⟨es, hv⟩ := hv
    cases htype : Value.entry? es "Type" with
    | none => rw [h.type_of_lower es hv htype, hother.type_of_lower es hv htype]
    | some type => rw [h.type_of_member es hv type htype, hother.type_of_member es hv type htype]
  · have htext : ∀ es, v ≠ .mapping es := fun es he => hv ⟨es, he⟩
    rw [h.type_of_text htext, hother.type_of_text htext]

theorem DescribedBy.location_eq (h : DescribedBy entry v found) {other : Access}
    (hother : DescribedBy entry v other) : found.location = other.location := by
  by_cases hnested : ∃ place, HoldsPlace v place
  · obtain ⟨place, hplace⟩ := hnested
    rw [h.nested place hplace, hother.nested place hplace]
  · have hnone := not_exists.1 hnested
    by_cases hbeside : ∃ place, HoldsPlace entry place
    · obtain ⟨place, hplace⟩ := hbeside
      rw [h.beside hnone place hplace, hother.beside hnone place hplace]
    · rw [h.nowhere hnone (not_exists.1 hbeside), hother.nowhere hnone (not_exists.1 hbeside)]

theorem describedBy_iff :
    DescribedBy entry v found ↔ found = access (entryLocation? (entryPairs entry)) v := by
  constructor
  · intro h
    have htype := h.type_eq (describedBy_access entry v)
    have hlocation := h.location_eq (describedBy_access entry v)
    cases found
    cases hbuilt : access (entryLocation? (entryPairs entry)) v
    rw [hbuilt] at htype hlocation
    exact congr (congrArg Access.mk htype) hlocation
  · rintro rfl
    exact describedBy_access entry v

/-! ### Keys without tags -/

theorem text?_eq_some_iff {pair : Value × Value} (hplain : ∃ name, pair.1 = .string name)
    (name : String) : pair.1.text? = some name ↔ pair.1 = .string name := by
  obtain ⟨other, hkey⟩ := hplain
  simp [hkey, Value.text?, Value.untagged]

theorem hasKey_iff (hplain : ∀ pair ∈ entryPairs entry, ∃ name, pair.1 = .string name)
    (name : String) :
    HasKey name entry ↔ ∃ pair ∈ entryPairs entry, pair.1.text? = some name := by
  constructor
  · rintro ⟨v, hv⟩
    exact ⟨_, hv, rfl⟩
  · rintro ⟨⟨key, v⟩, hpair, hkey⟩
    obtain rfl : key = .string name := (text?_eq_some_iff (hplain _ hpair) name).1 hkey
    exact ⟨v, hpair⟩

theorem any_namesAccess_iff
    (hplain : ∀ pair ∈ entryPairs entry, ∃ name, pair.1 = .string name) :
    ((entryPairs entry).any fun e => namesAccess e.1) = true ↔
      HasKey "OtherAccess" entry ∨ HasKey "ClobberedBy" entry := by
  simp only [hasKey_iff hplain, List.any_eq_true, namesAccess, Bool.or_eq_true, beq_iff_eq,
    and_or_left, exists_or]

theorem ownPlace?_eq_some_iff
    (hplain : ∀ pair ∈ entryPairs entry, ∃ name, pair.1 = .string name) :
    ownPlace? (entryPairs entry) = some place ↔ OwnsPlace entry place := by
  unfold ownPlace?
  split
  · rename_i hany
    have haccess := (any_namesAccess_iff hplain).1 hany
    constructor
    · intro h
      cases h
    · intro h
      exact absurd haccess (not_or.2 ⟨h.no_other, h.no_clobbered⟩)
  · rename_i hany
    have hnone := not_or.1 (mt (any_namesAccess_iff hplain).2 hany)
    rw [entryLocation?_eq_some_iff]
    exact ⟨fun h => ⟨h, hnone.1, hnone.2⟩, fun h => h.holds⟩

theorem Slot.written?_eq_some_iff (s : Slot)
    (hplain : ∀ pair ∈ entryPairs entry, ∃ name, pair.1 = .string name) :
    s.written? (entryPairs entry) = some found ↔
      ∃ v, IsLast (fun pair => pair.1 = .string s.name) (entryPairs entry) (.string s.name, v) ∧
        DescribedBy entry v found := by
  have hwrites : ∀ pair ∈ entryPairs entry,
      s.write? (entryLocation? (entryPairs entry)) pair ≠ none ↔ pair.1 = .string s.name := by
    intro pair hpair
    rw [← text?_eq_some_iff (hplain pair hpair), Slot.write?]
    split <;> simp_all
  have hwrite (v : Value) : s.write? (entryLocation? (entryPairs entry)) (.string s.name, v) =
      some (access (entryLocation? (entryPairs entry)) v) := if_pos rfl
  rw [Slot.written?, getLast?_filterMap_eq_some_iff]
  simp only [IsLast.congr hwrites, describedBy_iff]
  constructor
  · rintro ⟨⟨key, v⟩, hlast, hfound⟩
    obtain ⟨before, after, -, rfl, -⟩ := id hlast
    rw [hwrite] at hfound
    exact ⟨v, hlast, (Option.some.inj hfound).symm⟩
  · rintro ⟨v, hlast, rfl⟩
    exact ⟨_, hlast, hwrite v⟩

theorem Slot.written?_ne_none_iff (s : Slot)
    (hplain : ∀ pair ∈ entryPairs entry, ∃ name, pair.1 = .string name) :
    s.written? (entryPairs entry) ≠ none ↔ HasKey s.name entry := by
  rw [hasKey_iff hplain, Slot.written?, ne_eq, List.getLast?_eq_none_iff,
    List.filterMap_eq_nil_iff, Classical.not_forall]
  simp [Slot.write?]

/-! ### All entries -/

theorem location_argsOf_iff (hplain : PlainKeys entries) :
    (argsOf entries).location = some place ↔
      ∃ entry, IsLast (fun e => ∃ p, OwnsPlace e p) entries entry ∧
        OwnsPlace entry place := by
  have howns : ∀ e ∈ entries, ownPlace? (entryPairs e) ≠ none ↔ ∃ p, OwnsPlace e p := by
    intro e he
    simp only [Option.ne_none_iff_exists', ownPlace?_eq_some_iff (hplain e he)]
  rw [location_argsOf, getLast?_filterMap_eq_some_iff]
  simp only [IsLast.congr howns]
  constructor
  · rintro ⟨entry, hlast, hplace⟩
    exact ⟨entry, hlast, (ownPlace?_eq_some_iff (hplain entry hlast.mem)).1 hplace⟩
  · rintro ⟨entry, hlast, hplace⟩
    exact ⟨entry, hlast, (ownPlace?_eq_some_iff (hplain entry hlast.mem)).2 hplace⟩

theorem location_argsOf_eq_none_iff (hplain : PlainKeys entries) :
    (argsOf entries).location = none ↔
      ∀ entry ∈ entries, ∀ place, ¬ OwnsPlace entry place := by
  rw [location_argsOf, List.getLast?_eq_none_iff, List.filterMap_eq_nil_iff]
  refine forall₂_congr fun entry hentry => ?_
  simp only [Option.eq_none_iff_forall_ne_some, ne_eq,
    ownPlace?_eq_some_iff (hplain entry hentry)]

theorem Slot.of_argsOf_iff (s : Slot) (hplain : PlainKeys entries) :
    s.of (argsOf entries) = some found ↔
      ∃ entry v, StandsLast s.name entries entry v ∧ DescribedBy entry v found := by
  have hwrites : ∀ e ∈ entries, s.written? (entryPairs e) ≠ none ↔ HasKey s.name e :=
    fun e he => s.written?_ne_none_iff (hplain e he)
  rw [s.of_argsOf, getLast?_filterMap_eq_some_iff]
  simp only [IsLast.congr hwrites]
  constructor
  · rintro ⟨entry, hlast, hfound⟩
    obtain ⟨v, hpair, hdescribed⟩ :=
      (s.written?_eq_some_iff (hplain entry hlast.mem)).1 hfound
    exact ⟨entry, v, ⟨hlast, hpair⟩, hdescribed⟩
  · rintro ⟨entry, v, ⟨hlast, hpair⟩, hdescribed⟩
    exact ⟨entry, hlast,
      (s.written?_eq_some_iff (hplain entry hlast.mem)).2 ⟨v, hpair, hdescribed⟩⟩

theorem placedBy_argsOf (hplain : PlainKeys entries) : PlacedBy entries (argsOf entries) where
  location_iff _ := location_argsOf_iff hplain
  no_location_iff := location_argsOf_eq_none_iff hplain
  other_iff _ := Slot.other.of_argsOf_iff hplain
  clobbered_iff _ := Slot.clobbered.of_argsOf_iff hplain

/-- Where places and accesses of a remark come from, and that no place in the arguments of a
document keeps it from being a remark. -/
theorem placedBy_of_remark? {document : Value} {r : Remark} (h : remark? document = some r)
    (hplain : PlainKeys (argumentsOf document)) :
    PlacedBy (argumentsOf document) r.args ∧
      ∀ others, ∃ args message,
        remark? (withArguments others document) = some { r with args, message } := by
  refine ⟨?_, fun others => ?_⟩
  · rw [args_of_remark? h]
    exact placedBy_argsOf hplain
  · obtain ⟨arguments, message, hread, -⟩ := remark?_withArguments h others
    exact ⟨argsOf arguments, message, hread⟩

def placeValue (file : String) : Value :=
  .mapping [(.string "File", .string file), (.string "Line", .number (.integer (.ofUInt64 1)))]

/-- A place of an entry, a place beside an access that has none that can be read, one that cannot be
read, and one beside an access with a place of its own. -/
def scatteredPlaces : List Value :=
  [.mapping [(.string "Callee", .string "f"), (.string "DebugLoc", placeValue "a.c")],
    .mapping [(.string "DebugLoc", placeValue "b.c"), (.string "OtherAccess",
      .mapping [(.string "type", .string "load"), (.string "DebugLoc", .bool true)])],
    .mapping [(.string "DebugLoc", .string "c.c:1"), (.string "String", .string "x")],
    .mapping [(.string "ClobberedBy",
      .mapping [(.string "DebugLoc", placeValue "d.c"), (.string "Type", .string "store")]),
      (.string "DebugLoc", placeValue "e.c")]]

def placedDocument : Value :=
  .tagged "Missed" (.mapping [(.string "Pass", .string "gvn"), (.string "Name", .string "N"),
    (.string "Args", .sequence scatteredPlaces)])

theorem placedBy_scatteredPlaces :
    ∃ r, remark? placedDocument = some r ∧ PlainKeys (argumentsOf placedDocument) ∧
      r.args.location = some { file := some "a.c", line := some 1 } ∧
      r.args.otherAccess = some ⟨some "load", some { file := some "b.c", line := some 1 }⟩ ∧
      r.args.clobberedBy = some ⟨some "store", some { file := some "d.c", line := some 1 }⟩ ∧
      PlacedBy (argumentsOf placedDocument) r.args ∧
      ∀ others, ∃ args message,
        remark? (withArguments others placedDocument) = some { r with args, message } := by
  have hread : (remark? placedDocument).map (fun r =>
      (r.args.location, r.args.otherAccess, r.args.clobberedBy)) =
      some (some { file := some "a.c", line := some 1 },
        some ⟨some "load", some { file := some "b.c", line := some 1 }⟩,
        some ⟨some "store", some { file := some "d.c", line := some 1 }⟩) := by
    decide +kernel
  obtain ⟨r, hr, hplaces⟩ := Option.map_eq_some_iff.1 hread
  obtain ⟨hlocation, haccesses⟩ := Prod.mk.inj hplaces
  obtain ⟨hother, hclobbered⟩ := Prod.mk.inj haccesses
  have hplain : PlainKeys (argumentsOf placedDocument) := by
    have hargs : argumentsOf placedDocument = scatteredPlaces := rfl
    rw [hargs]
    simp only [PlainKeys, scatteredPlaces, entryPairs, List.forall_mem_cons]
    simp
  exact ⟨r, hr, hplain, hlocation, hother, hclobbered, placedBy_of_remark? hr hplain⟩

end BuildRemarks.Record
