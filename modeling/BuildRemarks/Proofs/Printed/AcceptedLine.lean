import Mathlib.Tactic.SplitIfs
import BuildRemarks.Proofs.Printed.InliningLine
import BuildRemarks.Proofs.Printed.MessageParts

/-!
# Lines that are accepted

A line of which a remark is made can be put together again from the remark, up to leading zeros
of its two numbers. The tag alone decides the classes of the remark, and what the remark keeps
of its message stands in the message.
-/

namespace BuildRemarks.Printed

/-! ### The end of a line -/

def endText : Option (List Char) → List Char
  | none => []
  | some tag => tagText tag

/-- The tag, if there is one, is not empty and holds no closing bracket. -/
def TagProper (tag : Option (List Char)) : Prop :=
  ∀ t, tag = some t → t ≠ [] ∧ ']' ∉ t

theorem tagAt?_eq_some_iff {cs : List Char} {tag : Option (List Char)} :
    tagAt? cs = some tag ↔ TagProper tag ∧ cs = endText tag := by
  constructor
  · intro h
    rw [tagAt?.eq_def] at h
    split at h
    · cases h
      exact ⟨fun t ht => absurd ht (by simp), rfl⟩
    · obtain ⟨t, ht, rfl⟩ := Option.map_eq_some_iff.1 h
      obtain ⟨hne, hbracket, rfl⟩ := Text.bracketed?_eq_some_iff.1 ht
      exact ⟨fun u hu => Option.some.inj hu ▸ ⟨hne, hbracket⟩, rfl⟩
    · exact absurd h (by simp)
  · rintro ⟨hproper, rfl⟩
    cases tag with
    | none => rfl
    | some t => exact tagAt?_tagText (hproper t rfl).1 (hproper t rfl).2

theorem text_of_splitTag? {cs message : List Char} {tag : Option (List Char)}
    (h : splitTag? cs = some (message, tag)) :
    message ≠ [] ∧ '\n' ∉ message ∧ TagProper tag ∧ cs = message ++ endText tag := by
  induction cs generalizing message with
  | nil => exact absurd h (by simp [splitTag?])
  | cons c cs ih =>
    rw [splitTag?] at h
    split at h
    · exact absurd h (by simp)
    · rename_i hc
      split at h
      · rename_i found hfound
        cases h
        obtain ⟨hproper, rfl⟩ := tagAt?_eq_some_iff.1 hfound
        have hline : '\n' ∉ [c] :=
          List.not_mem_cons_of_ne_of_not_mem (Ne.symm hc) List.not_mem_nil
        exact ⟨List.cons_ne_nil c [], hline, hproper, rfl⟩
      · obtain ⟨⟨message', tag'⟩, hread, he⟩ := Option.map_eq_some_iff.1 h
        cases he
        obtain ⟨-, hrest, hproper, rfl⟩ := ih hread
        have hline : '\n' ∉ c :: message' :=
          List.not_mem_cons_of_ne_of_not_mem (Ne.symm hc) hrest
        exact ⟨List.cons_ne_nil c message', hline, hproper, rfl⟩

/-- No shorter message leaves a tag behind it. -/
theorem length_le_of_splitTag? {cs message front : List Char} {tag other : Option (List Char)}
    (h : splitTag? cs = some (message, tag)) (hne : front ≠ []) (hother : TagProper other)
    (hcs : cs = front ++ endText other) : message.length ≤ front.length := by
  induction cs generalizing message front with
  | nil => exact absurd h (by simp [splitTag?])
  | cons c cs ih =>
    cases front with
    | nil => exact absurd rfl hne
    | cons d front =>
      have hrest : cs = front ++ endText other := (List.cons.inj hcs).2
      rw [splitTag?] at h
      split at h
      · exact absurd h (by simp)
      · split at h
        · cases h
          exact Nat.succ_le_succ (Nat.zero_le _)
        · rename_i hnone
          obtain ⟨⟨message', tag'⟩, hread, he⟩ := Option.map_eq_some_iff.1 h
          cases he
          -- behind the first character no tag may begin, so the other message goes on as well
          have hfront : front ≠ [] := by
            rintro rfl
            rw [tagAt?_eq_some_iff.2 ⟨hother, hrest⟩] at hnone
            exact absurd hnone (by simp)
          exact Nat.succ_le_succ (ih hread hfront hrest)

/-! ### The parts of a line -/

/-- The digits are ASCII and denote the number. -/
structure Denotes (digits : List Char) (n : UInt32) : Prop where
  ne_nil : digits ≠ []
  ascii : ∀ c ∈ digits, c.isDigit = true
  value : Text.digitsValue digits = n.toNat

theorem exists_of_number? {cs rest : List Char} {n : UInt32} (h : number? cs = some (n, rest)) :
    ∃ digits, Denotes digits n ∧ cs = digits ++ ':' :: rest := by
  simp only [number?, bind, Option.bind_eq_some_iff] at h
  obtain ⟨⟨digits, rest'⟩, hrun, k, hdigits, h⟩ := h
  obtain ⟨-, -, rfl⟩ := Text.runTo?_eq_some_iff.1 hrun
  obtain ⟨hne, hascii, hvalue⟩ := Text.readDigits?_eq_some_iff.1 hdigits
  split at h
  · rename_i hlt
    cases h
    have hn : Text.digitsValue digits = (UInt32.ofNat k).toNat := by
      rw [hvalue, UInt32.toNat_ofNat_of_lt' hlt]
    exact ⟨digits, ⟨hne, hascii, hn⟩, rfl⟩
  · exact absurd h (by simp)

/-- `remark: file:line:column: message`, and the tag. The digits of the two numbers are those
given. -/
def Line.text (l : Line) (line column : List Char) : List Char :=
  "remark: ".toList ++ (l.file ++ ':' :: (line ++ ':' :: (column ++ ':' :: (' ' ::
    (l.message ++ endText l.tag)))))

/-- No part of the line but the tag may be missing, and the message ends as early as it can. -/
structure Line.Proper (l : Line) : Prop where
  file_ne_nil : l.file ≠ []
  colon_notMem_file : ':' ∉ l.file
  message_ne_nil : l.message ≠ []
  newline_notMem_message : '\n' ∉ l.message
  tag : TagProper l.tag
  shortest : ∀ front tag, front ≠ [] → TagProper tag →
    l.message ++ endText l.tag = front ++ endText tag → l.message.length ≤ front.length

theorem Line.exists_of_read? {cs : List Char} {l : Line} (h : Line.read? cs = some l) :
    l.Proper ∧ ∃ line column, Denotes line l.line ∧ Denotes column l.column ∧
      cs = l.text line column := by
  simp only [Line.read?, bind, Option.bind_eq_some_iff, pure, Option.some.injEq] at h
  obtain ⟨cs₁, hmark, ⟨file, cs₂⟩, hfile, ⟨n, cs₃⟩, hline, ⟨m, cs₄⟩, hcolumn,
    cs₅, hspace, ⟨message, tag⟩, hsplit, rfl⟩ := h
  -- each step puts the text that it has taken back in front of the rest
  obtain rfl := Text.after?_eq_some_iff.1 hmark
  obtain ⟨hfne, hfcolon, rfl⟩ := Text.runTo?_eq_some_iff.1 hfile
  obtain ⟨line, hn, rfl⟩ := exists_of_number? hline
  obtain ⟨column, hm, rfl⟩ := exists_of_number? hcolumn
  obtain rfl := Text.after?_eq_some_iff.1 hspace
  obtain ⟨hmne, hmline, htag, rfl⟩ := text_of_splitTag? hsplit
  have hshortest (front : List Char) (other : Option (List Char)) (hne : front ≠ [])
      (hother : TagProper other) (htext : message ++ endText tag = front ++ endText other) :
      message.length ≤ front.length :=
    length_le_of_splitTag? hsplit hne hother htext
  exact ⟨⟨hfne, hfcolon, hmne, hmline, htag, hshortest⟩, line, column, hn, hm, rfl⟩

/-! ### The tag and the classes -/

def Form.classes : Form → Remark.Kind × Remark.Pass × Remark.Status
  | inlining => (.optimization, .inlining, .passed)
  | missed => (.optimization, .vectorization, .missed)
  | analysis => (.analysis, .analysis, .analysis)
  | sizeInfo => (.metric, .sizeInfo, .analysis)

/-! ### What a remark keeps of its message -/

def Noted (r : Remark) (name text : String) : Prop :=
  r.metadata.get? name = some (.string text)

theorem noted_withText (r : Remark) (name text : String) : Noted (r.withText name text) name text :=
  NameMap.get?_insert_self r.metadata name (.string text)

theorem get?_withText_of_ne (r : Remark) {name other : String} (text : String)
    (h : other ≠ name) : (r.withText name text).metadata.get? other = r.metadata.get? other := by
  rw [Remark.withText, NameMap.get?_insert, if_neg h]

theorem Noted.withText {r : Remark} {name text : String} (h : Noted r name text)
    {other : String} (value : String) (hne : name ≠ other) :
    Noted (r.withText other value) name text :=
  (get?_withText_of_ne r value hne).trans h

structure Inlining.ToldBy (s : Inlining) (r : Remark) : Prop where
  callee : r.args.callee = some (.ofList s.callee)
  caller : r.args.caller = some (.ofList s.caller)
  reason : r.args.reason = some (.ofList (Text.trim s.reason))
  location : r.args.location = Location.ofTriple? (Text.trim s.callsite)
  action : Noted r "action" "inlined into"
  params : Noted r "params" (.ofList (Text.trim s.parameters))
  callsite : Noted r "callsite" (.ofList (Text.trim s.callsite))

/-- What a remark of a form keeps of its message. -/
def Form.Kept (message : List Char) (r : Remark) : Form → Prop
  | inlining => ∃ s : Inlining, s.Proper ∧ s.text <:+: message ∧ s.ToldBy r
  | missed => ∃ subject reason, Sides message subject reason ∧
      r.args = { reason := some reason } ∧ Noted r "optimization" subject ∧
      Noted r "reason" reason
  | analysis => ∃ subject result, Sides message subject result ∧
      r.args = { strings := [subject, result] } ∧ Noted r "analysis" subject ∧
      Noted r "result" result
  | sizeInfo => r.args = .none

/-- What is kept depends neither on the place nor on the tag among the metadata. -/
theorem Form.Kept.congr {message : List Char} {r r' : Remark} {form : Form}
    (h : form.Kept message r) (hargs : r'.args = r.args)
    (hmetadata : ∀ name, name ≠ "tag" → r'.metadata.get? name = r.metadata.get? name) :
    form.Kept message r' := by
  have hnoted {name text : String} (hname : name ≠ "tag") (hr : Noted r name text) :
      Noted r' name text :=
    (hmetadata name hname).trans hr
  cases form with
  | inlining =>
    obtain ⟨s, hproper, hin, htold⟩ := h
    refine ⟨s, hproper, hin, ?_⟩
    constructor
    · rw [hargs, htold.callee]
    · rw [hargs, htold.caller]
    · rw [hargs, htold.reason]
    · rw [hargs, htold.location]
    · exact hnoted (by decide) htold.action
    · exact hnoted (by decide) htold.params
    · exact hnoted (by decide) htold.callsite
  | missed =>
    obtain ⟨subject, reason, hsides, hkept, hsubject, hreason⟩ := h
    exact ⟨subject, reason, hsides, hargs.trans hkept, hnoted (by decide) hsubject,
      hnoted (by decide) hreason⟩
  | analysis =>
    obtain ⟨subject, result, hsides, hkept, hsubject, hresult⟩ := h
    exact ⟨subject, result, hsides, hargs.trans hkept, hnoted (by decide) hsubject,
      hnoted (by decide) hresult⟩
  | sizeInfo => exact hargs.trans h

/-- The remark of a message before it gets a place and a tag. -/
structure Form.Made (form : Form) (message : List Char) (r : Remark) : Prop where
  message_eq : r.message = .ofList message
  classes : (r.kind, r.pass, r.status) = form.classes
  kept : form.Kept message r
  untagged : r.metadata.get? "tag" = none

theorem made_of_inliningRemark? {message : List Char} {r : Remark}
    (h : inliningRemark? message = some r) : Form.inlining.Made message r := by
  obtain ⟨s, hs, rfl⟩ := Option.map_eq_some_iff.1 h
  obtain ⟨hproper, hin⟩ := Inlining.infix_of_ofMessage? hs
  obtain ⟨cost, values, hargs⟩ := s.exists_args
  refine ⟨rfl, rfl, ⟨s, hproper, hin, ?_⟩, ?_⟩
  · constructor
    · exact congrArg Remark.Args.callee hargs
    · exact congrArg Remark.Args.caller hargs
    · exact congrArg Remark.Args.reason hargs
    · exact congrArg Remark.Args.location hargs
    · exact ((noted_withText _ _ _).withText _ (by decide)).withText _ (by decide)
    · exact (noted_withText _ _ _).withText _ (by decide)
    · exact noted_withText _ _ _
  · rw [get?_withText_of_ne _ _ (by decide), get?_withText_of_ne _ _ (by decide),
      get?_withText_of_ne _ _ (by decide)]
    rfl

theorem made_of_missedRemark? {message : List Char} {r : Remark}
    (h : missedRemark? message = some r) : Form.missed.Made message r := by
  obtain ⟨⟨subject, reason⟩, hsplit, rfl⟩ := Option.map_eq_some_iff.1 h
  have hsides := sides_of_splitSubject? hsplit
  refine ⟨rfl, rfl, ⟨subject, reason, hsides, rfl, ?_, noted_withText _ _ _⟩, ?_⟩
  · exact (noted_withText _ _ _).withText _ (by decide)
  · rw [get?_withText_of_ne _ _ (by decide), get?_withText_of_ne _ _ (by decide)]
    rfl

theorem made_of_analysisRemark? {message : List Char} {r : Remark}
    (h : analysisRemark? message = some r) : Form.analysis.Made message r := by
  obtain ⟨⟨subject, result⟩, hsplit, rfl⟩ := Option.map_eq_some_iff.1 h
  have hsides := sides_of_splitSubject? hsplit
  refine ⟨rfl, rfl, ⟨subject, result, hsides, rfl, ?_, noted_withText _ _ _⟩, ?_⟩
  · exact (noted_withText _ _ _).withText _ (by decide)
  · rw [get?_withText_of_ne _ _ (by decide), get?_withText_of_ne _ _ (by decide)]
    rfl

theorem Form.made_of_remark? {form : Form} {message : List Char} {r : Remark}
    (h : form.remark? message = some r) : form.Made message r := by
  cases form with
  | inlining => exact made_of_inliningRemark? h
  | missed => exact made_of_missedRemark? h
  | analysis => exact made_of_analysisRemark? h
  | sizeInfo =>
    cases h
    exact ⟨rfl, rfl, rfl, rfl⟩

/-! ### Whole lines -/

/-- The remark tells what stands in the line. -/
structure Line.Gives (l : Line) (form : Form) (r : Remark) : Prop where
  message : r.message = .ofList l.message
  location : r.location = some (.inFile (.ofList l.file) l.line l.column)
  tag : r.metadata.get? "tag" = l.tag.map fun tag => .string (.ofList tag)
  classes : (r.kind, r.pass, r.status) = form.classes
  kept : form.Kept l.message r

theorem Form.Made.gives_tagged {form : Form} {l : Line} {r : Remark} {tag : List Char}
    (hmade : form.Made l.message r) (htag : l.tag = some tag) :
    l.Gives form ({ r with location := some l.location }.withText "tag" (.ofList tag)) where
  message := hmade.message_eq
  location := rfl
  tag := by
    rw [htag]
    exact noted_withText _ _ _
  classes := hmade.classes
  kept := hmade.kept.congr rfl fun _ hname => get?_withText_of_ne _ _ hname

end BuildRemarks.Printed
