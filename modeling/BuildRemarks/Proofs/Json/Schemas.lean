import BuildRemarks.Json.Reader
import BuildRemarks.Proofs.NameMap

/-!
# Forms that are read back

A form of something is a value that a reader takes it back from. What lists, maps and records
hold is read back one after the other: the members of a map come in the order of their names, so
each goes to the end of what has been read, and the members of a record come in the order of the
fields of its schema, so each finds its field and none comes twice.
-/

namespace BuildRemarks.Json

/-- Nothing in the value is a floating-point number, and its arrays and objects are nested at
most as deep as given. -/
inductive Fits : Nat → Value → Prop
  | null {n : Nat} : Fits n .null
  | bool {n : Nat} (b : Bool) : Fits n (.bool b)
  | integer {n : Nat} (i : WordInt) : Fits n (.number (.integer i))
  | string {n : Nat} (s : String) : Fits n (.string s)
  | array {n : Nat} {vs : List Value} (h : ∀ v ∈ vs, Fits n v) : Fits (n + 1) (.array vs)
  | object {n : Nat} {ms : List (String × Value)} (h : ∀ m ∈ ms, Fits n m.2) :
      Fits (n + 1) (.object ms)

/-- The reader takes `a` from the text of the value. -/
structure Represents {α : Type} (read : Reader α) (n : Nat) (v : Value) (a : α) : Prop where
  fits : Fits n v
  read_eq : read (.ofValue v) = .ok a

namespace Represents

variable {α : Type} {read : Reader α} {n : Nat}

/-! ### Words, texts and names -/

theorem string (s : String) : Represents .string n (.string s) s := ⟨.string s, rfl⟩

theorem integer {expected : String} {low high : Int} {make : Int → α} {i : WordInt} {a : α}
    (hlow : low ≤ i.val) (hhigh : i.val < high) (hmake : make i.val = a) :
    Represents (.integer expected low high make) n (.integer i) a := by
  refine ⟨.integer i, ?_⟩
  show (if low ≤ i.val ∧ i.val < high then Except.ok (make i.val) else _) = _
  rw [if_pos ⟨hlow, hhigh⟩, hmake]

theorem halfWord (w : UInt32) : Represents .uint32 n (.halfWord w) w := by
  have hmake : UInt32.ofNat (w.toNat : Int).toNat = w := by
    rw [Int.toNat_natCast, UInt32.ofNat_toNat]
  exact integer (Int.natCast_nonneg _) (Int.ofNat_lt.2 w.toNat_lt_size) hmake

theorem word (w : UInt64) : Represents .uint64 n (.word w) w := by
  have hmake : UInt64.ofNat (w.toNat : Int).toNat = w := by
    rw [Int.toNat_natCast, UInt64.ofNat_toNat]
  exact integer (Int.natCast_nonneg _) (Int.ofNat_lt.2 w.toNat_lt_size) hmake

theorem signedWord (w : Int64) : Represents .int64 n (.integer (.ofInt64 w)) w := by
  have hhigh : w.toInt < Int64.maxValue.toInt + 1 := Int.lt_add_one_of_le (Int64.toInt_le w)
  exact integer (WordInt.ofInt64 w).lower hhigh (Int64.ofInt_toInt w)

theorem named {known : List (String × α)} {name : String} {a : α}
    (h : known.lookup name = some a) : Represents (.variant known) n (.string name) a := by
  refine ⟨.string name, ?_⟩
  show Reader.variantNamed known name = _
  rw [Reader.variantNamed, h]

/-! ### Options, lists and maps -/

theorem option {write : α → Value} {o : Option α} (hnull : ∀ a, read .null ≠ .ok a)
    (h : ∀ a, o = some a → Represents read n (write a) a) :
    Represents (.option read) n (.option write o) o := by
  cases o with
  | none => exact ⟨.null, rfl⟩
  | some a =>
    obtain ⟨hfits, hread⟩ := h a rfl
    refine ⟨hfits, ?_⟩
    have hsome : Reader.option read (.ofValue (write a)) =
        (read (.ofValue (write a))).map some := by
      cases hs : Source.ofValue (write a) with
      | null => exact absurd (hs ▸ hread) (hnull a)
      | _ => rfl
    rw [Value.option, hsome, hread]
    rfl

theorem list {write : α → Value} {as : List α}
    (h : ∀ a ∈ as, Represents read n (write a) a) :
    Represents (.list read) (n + 1) (.list write as) as := by
  have hfits : ∀ v ∈ as.map write, Fits n v := by
    intro v hv
    obtain ⟨a, ha, rfl⟩ := List.mem_map.1 hv
    exact (h a ha).fits
  have heach : Reader.each read (Source.ofValues (as.map write)) = .ok as := by
    clear hfits
    induction as with
    | nil => rfl
    | cons a as ih =>
      have hrest := ih fun b hb => h b (List.mem_cons_of_mem a hb)
      rw [List.map_cons, Source.ofValues, Reader.each, (h a List.mem_cons_self).read_eq]
      simp only [bind, Except.bind, hrest]
      rfl
  refine ⟨.array hfits, ?_⟩
  rw [Value.list, Source.ofValue, Reader.list]
  simp only [bind, Except.bind, heach]
  rfl

/-- Members in the order of their names go to the end of the map one after the other. -/
theorem entries_ofMembers {write : α → Value} {m : NameMap α} {es : List (String × α)}
    (hascending : (m.entries ++ es).Pairwise fun a b => a.1 < b.1)
    (h : ∀ e ∈ es, Represents read n (write e.2) e.2) :
    ∃ m', Reader.entries read m (Source.ofMembers (es.map fun e => (e.1, write e.2))) = .ok m' ∧
      m'.entries = m.entries ++ es := by
  induction es generalizing m with
  | nil => exact ⟨m, rfl, (List.append_nil m.entries).symm⟩
  | cons e es ih =>
    have hbefore : ∀ d ∈ m.entries, d.1 < e.1 := fun d hd =>
      (List.pairwise_append.1 hascending).2.2 d hd e List.mem_cons_self
    have hinsert : (m.insert e.1 e.2).entries = m.entries ++ [e] :=
      NameMap.insertEntry_eq_append e.2 hbefore
    rw [← List.singleton_append, ← List.append_assoc, ← hinsert] at hascending
    obtain ⟨m', hread, hentries⟩ := ih hascending fun d hd => h d (List.mem_cons_of_mem e hd)
    refine ⟨m', ?_, ?_⟩
    · rw [List.map_cons, Source.ofMembers, Reader.entries]
      simp only [bind, Except.bind, (h e List.mem_cons_self).read_eq, hread]
    · rw [hentries, hinsert, List.append_assoc, List.singleton_append]

theorem map {write : α → Value} {m : NameMap α}
    (h : ∀ e ∈ m.entries, Represents read n (write e.2) e.2) :
    Represents (.map read) (n + 1) (.ofMap write m) m := by
  have hfits : ∀ p ∈ m.entries.map fun e => (e.1, write e.2), Fits n p.2 := by
    intro p hp
    obtain ⟨e, he, rfl⟩ := List.mem_map.1 hp
    exact (h e he).fits
  obtain ⟨m', hread, hentries⟩ := entries_ofMembers (m := .empty) m.ascending h
  obtain rfl : m' = m := NameMap.ext_entries hentries
  refine ⟨.object hfits, ?_⟩
  rw [Value.ofMap, Source.ofValue, Reader.map]
  simp only [bind, Except.bind, hread]
  rfl

end Represents

/-- A value that is neither nested nor a floating-point number. -/
inductive Value.Scalar : Value → Prop
  | null : Scalar .null
  | bool (b : Bool) : Scalar (.bool b)
  | integer (i : WordInt) : Scalar (.integer i)
  | string (s : String) : Scalar (.string s)

theorem Value.Scalar.represents {v : Value} (h : v.Scalar) {n : Nat} :
    Represents readValue n v v := by
  cases h with
  | null => exact ⟨.null, rfl⟩
  | bool b => exact ⟨.bool b, rfl⟩
  | integer i => exact ⟨.integer i, rfl⟩
  | string s => exact ⟨.string s, rfl⟩

/-! ### Records -/

/-- The members go into the fields one after the other and turn one record into another. -/
inductive Written {σ : Type} (n : Nat) :
    List (Field σ) → List (String × Value) → σ → σ → Prop
  | nil (r : σ) : Written n [] [] r r
  | cons {f : Field σ} {fs : List (Field σ)} {v : Value} {ms : List (String × Value)}
      {r r' r'' : σ} (fits : Fits n v) (store : f.store (.ofValue v) r = .ok r')
      (rest : Written n fs ms r' r'') : Written n (f :: fs) ((f.name, v) :: ms) r r''

namespace Written

variable {σ α : Type} {n : Nat} {fs : List (Field σ)} {ms : List (String × Value)} {r r' : σ}

theorem field {name : String} {required : Bool} {read : Reader α} {put : σ → α → σ}
    {v : Value} {a : α} (h : Represents read n v a) (rest : Written n fs ms (put r a) r') :
    Written n (⟨name, required, fun s r => (read s).map (put r)⟩ :: fs) ((name, v) :: ms)
      r r' := by
  have hstore : (read (.ofValue v)).map (put r) = .ok (put r a) :=
    congrArg (Except.map (put r)) h.read_eq
  exact .cons h.fits hstore rest

theorem fits (h : Written n fs ms r r') : ∀ m ∈ ms, Fits n m.2 := by
  induction h with
  | nil => exact fun m hm => absurd hm List.not_mem_nil
  | cons hfits _ _ ih =>
    intro m hm
    rcases List.mem_cons.1 hm with rfl | hm
    · exact hfits
    · exact ih m hm

/-- Behind the members of the first fields those of the others are stored. -/
theorem members_eq {schema : Schema σ} (front : List (Field σ))
    (hfields : schema.fields = front ++ fs) (hnames : (schema.fields.map (·.name)).Nodup)
    (h : Written n fs ms r r') :
    schema.members .closed (front.map (·.name)).reverse r (Source.ofMembers ms) = .ok r' := by
  induction h generalizing front with
  | nil r =>
    have hmissing : schema.missing? (front.map (·.name)).reverse = none := by
      rw [Schema.missing?, hfields, List.append_nil, Option.map_eq_none_iff, List.find?_eq_none]
      intro f hf
      have hseen : (front.map (·.name)).reverse.contains f.name = true := by
        rw [List.contains_iff_mem, List.mem_reverse]
        exact List.mem_map_of_mem hf
      rw [hseen]
      simp
    rw [Source.ofMembers, Schema.members]
    simp only [ObjectEnd.readFlaw, hmissing]
    rfl
  | @cons f fs v ms r r₁ r₂ hfits hstore _ ih =>
    have hnew : f.name ∉ front.map (·.name) := by
      rw [hfields, List.map_append, List.map_cons] at hnames
      intro hmem
      exact (List.nodup_append.1 hnames).2.2 f.name hmem f.name List.mem_cons_self rfl
    have hfind : schema.fields.find? (·.name == f.name) = some f := by
      have hfront : front.find? (·.name == f.name) = none := by
        rw [List.find?_eq_none]
        intro g hg heq
        exact hnew (eq_of_beq heq ▸ List.mem_map_of_mem hg)
      rw [hfields, List.find?_append, hfront, List.find?_cons_of_pos (by simp)]
      rfl
    have hseen : (front.map (·.name)).reverse.contains f.name = false := by
      rw [Bool.eq_false_iff]
      exact fun hmem => hnew (List.mem_reverse.1 (List.contains_iff_mem.1 hmem))
    have hrest := ih (front ++ [f]) (by rw [hfields, List.append_assoc]; rfl)
    rw [List.map_append, List.reverse_append] at hrest
    rw [Source.ofMembers, Schema.members]
    simp only [bind, Except.bind, hfind, hseen, hstore]
    exact hrest

end Written

theorem Represents.schema {σ : Type} {schema : Schema σ} {n : Nat} {ms : List (String × Value)}
    {r : σ} (hnames : (schema.fields.map (·.name)).Nodup)
    (h : Written n schema.fields ms schema.start r) :
    Represents schema.read (n + 1) (.object ms) r :=
  ⟨.object h.fits, h.members_eq [] rfl hnames⟩

end BuildRemarks.Json
