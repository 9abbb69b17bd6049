import BuildRemarks.Proofs.Record.Documents
import BuildRemarks.Proofs.Text.Cases
import BuildRemarks.Proofs.Text.Encoding

/-!
# Records stand for themselves

Every document of a stream is a record or is passed over, whatever stands before and behind it. A
record is a document with a body and a tag of one of three families; it gives one remark, in its
turn. But a single document that cannot be read spoils the whole stream, wherever it stands.
-/

namespace BuildRemarks.Record

open Yaml (Value Node)
open Remark (Status)
open Text (Bytes InAnyCase decode?)

/-! ### Families of tags -/

/-- The word of a tag, between blanks and behind all its exclamation marks. -/
def WordOf (tag : String) (word : List Char) : Prop :=
  ∃ marks, Text.trim tag.toList = marks ++ word ∧ (∀ c ∈ marks, c = '!') ∧
    word.head? ≠ some '!'

/-- The words that mean an outcome. Only the word of an analysis may go on. -/
inductive Family : Status → List Char → Prop where
  | passed {word : List Char} (h : InAnyCase "passed".toList word) : Family .passed word
  | missed {word : List Char} (h : InAnyCase "missed".toList word) : Family .missed word
  | analysis {lead : List Char} (h : InAnyCase "analysis".toList lead) (rest : List Char) :
    Family .analysis (lead ++ rest)

theorem wordOf_iff {tag : String} {word : List Char} :
    WordOf tag word ↔ word = (Text.trim tag.toList).dropWhile (· == '!') := by
  constructor
  · rintro ⟨marks, htrim, hmarks, hhead⟩
    have hall : ∀ c ∈ marks, (c == '!') = true := fun c hc => beq_iff_eq.2 (hmarks c hc)
    rw [htrim, List.dropWhile_append_of_pos hall]
    cases word with
    | nil => rfl
    | cons c word =>
      have hc : (c == '!') = false := beq_eq_false_iff_ne.2 fun e => hhead (congrArg some e)
      simp only [List.dropWhile_cons, hc, Bool.false_eq_true, if_false]
  · rintro rfl
    refine ⟨_, List.takeWhile_append_dropWhile.symm, fun c hc => ?_, fun hhead => ?_⟩
    · exact beq_iff_eq.1 (List.all_eq_true.1 List.all_takeWhile c hc)
    · have hstop := List.head?_dropWhile_not (· == '!') (Text.trim tag.toList)
      rw [hhead] at hstop
      exact absurd hstop (by decide)

theorem ofTag?_eq_some_iff {tag : String} {status : Status} :
    Status.ofTag? tag = some status ↔ ∃ word, WordOf tag word ∧ Family status word := by
  simp only [wordOf_iff, exists_eq_left]
  generalize hword : (Text.trim tag.toList).dropWhile (· == '!') = word
  have hpassed : word.map Char.toLower = "passed".toList ↔ InAnyCase "passed".toList word :=
    Text.map_toLower_eq_iff (by decide)
  have hmissed : word.map Char.toLower = "missed".toList ↔ InAnyCase "missed".toList word :=
    Text.map_toLower_eq_iff (by decide)
  simp only [Status.ofTag?, hword]
  constructor
  · intro h
    split at h
    · rename_i heq
      cases h
      exact .passed (hpassed.1 heq)
    · split at h
      · rename_i heq
        cases h
        exact .missed (hmissed.1 heq)
      · split at h
        · rename_i hprefix
          cases h
          obtain ⟨lead, rest, rfl, hlead⟩ :=
            (Text.isPrefixOf_map_toLower_iff (by decide)).1 hprefix
          exact .analysis hlead rest
        · exact absurd h (by simp)
  · intro h
    cases h with
    | passed h => rw [if_pos (hpassed.2 h)]
    | missed h =>
      rw [hmissed.2 h]
      rfl
    | analysis h rest =>
      rw [List.map_append, (Text.map_toLower_eq_iff (by decide)).2 h]
      rfl

/-! ### Records among documents -/

/-- The document is a record and gives the remark. -/
inductive Reports : Value → Remark → Prop where
  | record {tag : String} {word : List Char} {status : Status} {v : Value} {body : Body}
    (hword : WordOf (writtenTag tag) word) (hfamily : Family status word)
    (hbody : Body.read? v = some body) : Reports (.tagged tag v) (body.remark status)

/-- The remarks of those documents that are records, one for each and in their order. -/
inductive Reported : List Value → List Remark → Prop where
  | nil : Reported [] []
  | record {d : Value} {r : Remark} {ds : List Value} {rs : List Remark} (h : Reports d r)
    (hrest : Reported ds rs) : Reported (d :: ds) (r :: rs)
  | other {d : Value} {ds : List Value} {rs : List Remark} (h : ∀ r, ¬ Reports d r)
    (hrest : Reported ds rs) : Reported (d :: ds) rs

/-- The classes of a remark of a record go together, and it describes no kernel. -/
structure Classified (r : Remark) : Prop where
  kernel_iff : r.kind = .kernel ↔ r.pass = .kernelInfo
  metric_iff : r.kind = .metric ↔ r.pass = .sizeInfo
  analysis_iff : r.kind = .analysis ↔
    (r.pass ≠ .kernelInfo ∧ r.pass ≠ .sizeInfo) ∧ r.status = .analysis
  optimization_iff : r.kind = .optimization ↔
    (r.pass ≠ .kernelInfo ∧ r.pass ≠ .sizeInfo) ∧ r.status ≠ .analysis
  undescribed : r.kernel = none

theorem remark?_eq_some_iff {d : Value} {r : Remark} : remark? d = some r ↔ Reports d r := by
  constructor
  · intro h
    rw [remark?.eq_def] at h
    split at h
    · rename_i tag v
      simp only [bind, Option.bind_eq_some_iff, Option.some.injEq] at h
      obtain ⟨status, hstatus, body, hbody, rfl⟩ := h
      obtain ⟨word, hword, hfamily⟩ := ofTag?_eq_some_iff.1 hstatus
      exact .record hword hfamily hbody
    · exact absurd h (by simp)
  · rintro ⟨hword, hfamily, hbody⟩
    simp only [remark?, ofTag?_eq_some_iff.2 ⟨_, hword, hfamily⟩, hbody, bind, Option.bind_some]

theorem remark?_eq_none_iff {d : Value} : remark? d = none ↔ ∀ r, ¬ Reports d r := by
  simp only [Option.eq_none_iff_forall_ne_some, ne_eq, remark?_eq_some_iff]

theorem reported_ofDocuments (ds : List Value) : Reported ds (ofDocuments ds) := by
  induction ds with
  | nil => exact .nil
  | cons d ds ih =>
    cases hd : remark? d with
    | none =>
      rw [ofDocuments, List.filterMap_cons_none hd]
      exact .other (remark?_eq_none_iff.1 hd) ih
    | some r =>
      rw [ofDocuments, List.filterMap_cons_some hd]
      exact .record (remark?_eq_some_iff.1 hd) ih

theorem ofDocuments_insert (before after : List Value) {others : List Value}
    (h : ∀ d ∈ others, ∀ r, ¬ Reports d r) :
    ofDocuments (before ++ others ++ after) = ofDocuments (before ++ after) := by
  have hothers : others.filterMap remark? = [] :=
    List.filterMap_eq_nil_iff.2 fun d hd => remark?_eq_none_iff.2 (h d hd)
  simp only [ofDocuments, List.filterMap_append, hothers, List.append_nil]

theorem classified_of_kindOf {r : Remark} (hkind : r.kind = kindOf r.pass r.status)
    (hkernel : r.kernel = none) : Classified r := by
  constructor
  case undescribed => exact hkernel
  all_goals
    rw [hkind]
    cases r.pass <;> cases r.status <;> decide

theorem classified_of_mem_ofDocuments {ds : List Value} {r : Remark} (h : r ∈ ofDocuments ds) :
    Classified r := by
  obtain ⟨d, -, hd⟩ := List.mem_filterMap.1 h
  obtain ⟨hword, hfamily, hbody⟩ := remark?_eq_some_iff.1 hd
  exact classified_of_kindOf rfl rfl

/-! ### Documents of a stream -/

/-- The value of a document, unless an alias, a key or a scalar in it is faulty. -/
def documentValue? (root : Node) : Option Value :=
  (Yaml.Document.ofNode? root).bind Yaml.Document.value?

/-- The text falls into documents with these roots. -/
def Divided (text : String) (roots : List Node) : Prop :=
  ∃ tokens, Yaml.tokens? text.toList = some tokens ∧ Yaml.documents? tokens = some roots

/-- The values of the documents of a text, which has at least one. -/
inductive Framed (text : String) : List Value → Prop where
  | empty (h : Divided text []) : Framed text [.null]
  | documents {roots : List Node} {values : List Value} (h : Divided text roots)
    (hne : roots ≠ [])
    (hvalues : List.Forall₂ (fun root v => documentValue? root = some v) roots values) :
    Framed text values

/-- The text falls into no documents, or one of them cannot be read. -/
inductive Broken (text : String) : Prop where
  | undivided (h : ∀ roots, ¬ Divided text roots)
  | unreadable {roots : List Node} {root : Node} (h : Divided text roots) (hmem : root ∈ roots)
    (hroot : documentValue? root = none)

theorem mapM_eq_some_iff_forall₂ {α β : Type} {f : α → Option β} {as : List α}
    {bs : List β} :
    as.mapM f = some bs ↔ List.Forall₂ (fun a b => f a = some b) as bs := by
  induction as generalizing bs with
  | nil => simp [eq_comm]
  | cons a as ih =>
    rw [List.mapM_cons]
    simp only [bind, Option.bind_eq_some_iff, pure, Option.some.injEq, ih,
      List.forall₂_cons_left_iff]
    constructor
    · rintro ⟨b, hb, rest, hrest, rfl⟩
      exact ⟨b, rest, hb, hrest, rfl⟩
    · rintro ⟨b, rest, hb, hrest, rfl⟩
      exact ⟨b, hb, rest, hrest, rfl⟩

theorem mapM_eq_none_iff_exists {α β : Type} {f : α → Option β} {as : List α} :
    as.mapM f = none ↔ ∃ a ∈ as, f a = none := by
  induction as with
  | nil => simp
  | cons a as ih =>
    rw [List.mapM_cons]
    simp only [List.mem_cons, exists_eq_or_imp]
    cases ha : f a with
    | none => simp
    | some b =>
      rw [← ih]
      cases as.mapM f <;> simp

theorem Divided.load? {text : String} {roots : List Node} (h : Divided text roots) :
    Yaml.load? text =
      if roots.isEmpty then some [Value.null] else roots.mapM documentValue? := by
  obtain ⟨tokens, htokens, hroots⟩ := h
  simp only [Yaml.load?, htokens, hroots, bind, Option.bind_some]
  rfl

theorem divided_of_load? {text : String} {values : List Value}
    (h : Yaml.load? text = some values) : ∃ roots, Divided text roots := by
  simp only [Yaml.load?, bind, Option.bind_eq_some_iff] at h
  obtain ⟨tokens, htokens, roots, hroots, -⟩ := h
  exact ⟨roots, tokens, htokens, hroots⟩

theorem load?_eq_some_iff {text : String} {values : List Value} :
    Yaml.load? text = some values ↔ Framed text values := by
  constructor
  · intro h
    obtain ⟨roots, hroots⟩ := divided_of_load? h
    rw [hroots.load?] at h
    cases roots with
    | nil =>
      cases h
      exact .empty hroots
    | cons root roots =>
      exact .documents hroots (List.cons_ne_nil root roots) (mapM_eq_some_iff_forall₂.1 h)
  · intro h
    cases h with
    | empty h => rw [h.load?, if_pos List.isEmpty_nil]
    | documents h hne hvalues =>
      rw [h.load?, if_neg fun e => hne (List.isEmpty_iff.1 e)]
      exact mapM_eq_some_iff_forall₂.2 hvalues

theorem load?_eq_none_iff {text : String} : Yaml.load? text = none ↔ Broken text := by
  constructor
  · intro h
    by_cases hdivided : ∃ roots, Divided text roots
    · obtain ⟨roots, hroots⟩ := hdivided
      rw [hroots.load?] at h
      split at h
      · exact absurd h (by simp)
      · obtain ⟨root, hmem, hroot⟩ := mapM_eq_none_iff_exists.1 h
        exact .unreadable hroots hmem hroot
    · exact .undivided fun roots hroots => hdivided ⟨roots, hroots⟩
  · intro h
    cases h with
    | undivided h =>
      refine Option.eq_none_iff_forall_ne_some.2 fun values hvalues => ?_
      obtain ⟨roots, hroots⟩ := divided_of_load? hvalues
      exact h roots hroots
    | unreadable h hmem hroot =>
      rw [h.load?, if_neg fun e => List.ne_nil_of_mem hmem (List.isEmpty_iff.1 e)]
      exact mapM_eq_none_iff_exists.2 ⟨_, hmem, hroot⟩

/-- An alias without an anchor in the last document. -/
example : Broken "--- !Passed {Pass: gvn, Name: A}\n--- *a\n" :=
  load?_eq_none_iff.1 (Option.isNone_iff_eq_none.1 (by decide +kernel))

/-! ### Whole streams -/

/-- What a stream gives is decided document by document, unless one of them cannot be read. -/
structure Isolated (stream : Bytes) (text : String) : Prop where
  reads : ∀ documents, Framed text documents → ∃ remarks, parse stream = .ok remarks ∧
    Reported documents remarks ∧ ∀ r ∈ remarks, Classified r
  insert : ∀ before others after, (∀ d ∈ others, ∀ r, ¬ Reports d r) →
    Framed text (before ++ after) → ∀ stream' text', decode? stream' = some text' →
      Framed text' (before ++ others ++ after) → parse stream' = parse stream
  fails : Broken text → parse stream = .error .recordStream
  framed_or_broken : (∃ documents, Framed text documents) ∨ Broken text

variable {stream : Bytes} {text : String}

theorem parse_of_framed (h : decode? stream = some text) {documents : List Value}
    (hframed : Framed text documents) : parse stream = .ok (ofDocuments documents) := by
  rw [parse, h]
  simp only [load?_eq_some_iff.2 hframed]

theorem parse_of_broken (h : decode? stream = some text) (hbroken : Broken text) :
    parse stream = .error .recordStream := by
  rw [parse, h]
  simp only [load?_eq_none_iff.2 hbroken]

theorem isolated_of_decode? (h : decode? stream = some text) : Isolated stream text where
  reads documents hframed :=
    ⟨ofDocuments documents, parse_of_framed h hframed, reported_ofDocuments documents,
      fun _ hr => classified_of_mem_ofDocuments hr⟩
  insert before others after hothers hframed stream' text' h' hframed' := by
    rw [parse_of_framed h hframed, parse_of_framed h' hframed',
      ofDocuments_insert before after hothers]
  fails hbroken := parse_of_broken h hbroken
  framed_or_broken := by
    cases hload : Yaml.load? text with
    | none => exact Or.inr (load?_eq_none_iff.1 hload)
    | some documents => exact Or.inl ⟨documents, load?_eq_some_iff.1 hload⟩

/-- Between two records a document without a tag, one with another tag and one without a body. -/
def mixedStream : String :=
  "--- !Passed {Pass: gvn, Name: A}\n--- x\n--- !Failure x\n--- !Missed x\n" ++
    "--- !anaLysisFP {Pass: Kernel-Info, Name: B}\n"

theorem isolated_mixedStream :
    ∃ stream remarks, decode? stream = some mixedStream ∧ parse stream = .ok remarks ∧
      remarks.map (fun r => (r.message, r.kind, r.status)) =
        [("gvn: A", .optimization, .passed), ("Kernel-Info: B", .kernel, .analysis)] ∧
      Isolated stream mixedStream := by
  have hdecode : decode? (Text.encode mixedStream.toList) = some mixedStream := by
    rw [Text.decode?_encode, String.ofList_toList]
  have hload : (Yaml.load? mixedStream).map (fun documents =>
      (ofDocuments documents).map fun r => (r.message, r.kind, r.status)) =
      some [("gvn: A", .optimization, .passed), ("Kernel-Info: B", .kernel, .analysis)] := by
    decide +kernel
  obtain ⟨documents, hdocuments, hremarks⟩ := Option.map_eq_some_iff.1 hload
  exact ⟨_, ofDocuments documents, hdecode,
    parse_of_framed hdecode (load?_eq_some_iff.1 hdocuments), hremarks,
    isolated_of_decode? hdecode⟩

end BuildRemarks.Record
