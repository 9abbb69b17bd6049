import BuildRemarks.Record.Parse

/-!
# What a document of a record holds

A document that is accepted is a mapping behind a tag. Its members are found by their names, and
the remark that is made of it is made of the values under these names. Whatever its argument entries
hold, it is accepted.
-/

namespace BuildRemarks.Record

open Yaml (Value)

/-- The value under a name in a mapping, whatever its tags. -/
def valueUnder? (document : Value) (name : String) : Option Value :=
  ((document.entries?.getD []).find? fun e => e.1.text? == some name).map (·.2)

def textUnder? (document : Value) (name : String) : Option String :=
  (valueUnder? document name).bind Value.text?

/-- The argument entries of a document, which has none if it does not name them. -/
def argumentsOf (document : Value) : List Value :=
  ((valueUnder? document "Args").bind items?).getD []

/-! ### Members by name -/

theorem find?_of_mapM {es : List (Value × Value)} {named : List (String × Value)}
    (h : (es.mapM fun e => (text? e.1).map fun name => (name, e.2)) = some named)
    (name : String) :
    (es.find? fun e => e.1.text? == some name).map (·.2) =
      (named.find? fun e => e.1 = name).map (·.2) := by
  induction es generalizing named with
  | nil =>
    cases h
    rfl
  | cons e es ih =>
    rw [List.mapM_cons] at h
    simp only [bind, Option.bind_eq_some_iff, pure, Option.some.injEq] at h
    obtain ⟨⟨key, value⟩, hkey, rest, hrest, rfl⟩ := h
    obtain ⟨key', htext, heq⟩ := Option.map_eq_some_iff.1 hkey
    obtain ⟨rfl, rfl⟩ := Prod.mk.inj heq
    have htext : e.1.text? = some key' := htext
    rw [List.find?_cons, List.find?_cons, htext]
    by_cases hname : key' = name
    · simp only [hname, beq_self_eq_true, decide_true, Option.map_some]
    · have hne : (some key' == some name) = false := by simp [hname]
      simp only [hne, hname, decide_false, ih hrest]

theorem valueUnder?_of_member? {v : Value} {entries : List (String × Value)} {name : String}
    {found : Option Value} (h : namedEntries? v = some entries)
    (hfound : member? entries name = some found) : valueUnder? v name = found := by
  have hfirst : (entries.find? fun e => e.1 = name).map (·.2) = found := by
    rw [← List.head?_filter]
    rw [member?] at hfound
    split at hfound
    · rename_i hnil
      cases hfound
      rw [hnil]
      rfl
    · rename_i e hone
      cases hfound
      rw [hone]
      rfl
    · exact absurd hfound (by simp)
  rw [namedEntries?] at h
  rw [valueUnder?, Value.entries?]
  split at h
  · rename_i es hes
    rw [hes, ← hfirst]
    exact find?_of_mapM h name
  · rename_i hnull
    cases h
    rw [hnull, ← hfirst]
    rfl
  · exact absurd h (by simp)

theorem textUnder?_of_required? {v : Value} {entries : List (String × Value)} {name text : String}
    (h : namedEntries? v = some entries) (htext : required? text? entries name = some text) :
    textUnder? v name = some text := by
  simp only [required?, bind, Option.bind_eq_some_iff] at htext
  obtain ⟨found, hfound, value, hvalue, htext⟩ := htext
  rw [textUnder?, valueUnder?_of_member? h hfound, hvalue]
  exact htext

/-! ### The parts of a body -/

/-- The parts of a body that make the message and the arguments of its remark. -/
structure Body.Of (body : Body) (document : Value) : Prop where
  pass : textUnder? document "Pass" = some body.pass
  name : textUnder? document "Name" = some body.name
  arguments : argumentsOf document = body.arguments

theorem Body.of_read? {v : Value} {body : Body} (h : Body.read? v = some body) : body.Of v := by
  simp only [Body.read?, bind, Option.bind_eq_some_iff] at h
  obtain ⟨entries, hentries, pass, hpass, name, hname, function, -, location, -, hotness, -,
    found, hfound, h⟩ := h
  have hpass := textUnder?_of_required? hentries hpass
  have hname := textUnder?_of_required? hentries hname
  have hargs := valueUnder?_of_member? hentries hfound
  cases found with
  | none =>
    cases h
    exact ⟨hpass, hname, by rw [argumentsOf, hargs]; rfl⟩
  | some value =>
    obtain ⟨arguments, harguments, h⟩ := Option.bind_eq_some_iff.1 h
    cases h
    exact ⟨hpass, hname, by rw [argumentsOf, hargs, Option.bind_some, harguments]; rfl⟩

theorem exists_read_of_remark? {document : Value} {r : Remark}
    (h : remark? document = some r) :
    ∃ (tag : String) (v : Value) (status : Remark.Status) (body : Body),
      document = .tagged tag v ∧ Remark.Status.ofTag? (writtenTag tag) = some status ∧
        Body.read? v = some body ∧ r = body.remark status := by
  rw [remark?.eq_def] at h
  split at h
  · rename_i tag v
    simp only [bind, Option.bind_eq_some_iff, Option.some.injEq] at h
    obtain ⟨status, hstatus, body, hbody, rfl⟩ := h
    exact ⟨tag, v, status, body, rfl, hstatus, hbody, rfl⟩
  · exact absurd h (by simp)

/-- A remark is only made of a document that has a body. -/
theorem exists_body_of_remark? {document : Value} {r : Remark}
    (h : remark? document = some r) :
    ∃ status body, Body.Of body document ∧ r = body.remark status := by
  obtain ⟨tag, v, status, body, rfl, -, hbody, rfl⟩ := exists_read_of_remark? h
  obtain ⟨hpass, hname, harguments⟩ := Body.of_read? hbody
  -- a tag in front changes nothing that is found by name
  exact ⟨status, body, ⟨hpass, hname, harguments⟩, rfl⟩

/-! ### Other arguments -/

/-- A sequence of other items, behind the tags of the value. -/
def withItems (items : List Value) : Value → Value
  | .tagged tag v => .tagged tag (withItems items v)
  | _ => .sequence items

/-- The document with other argument entries, if it names any. -/
def withArguments (entries : List Value) : Value → Value
  | .tagged tag v => .tagged tag (withArguments entries v)
  | .mapping es => .mapping <| es.map fun e =>
    (e.1, if e.1.text? = some "Args" then withItems entries e.2 else e.2)
  | v => v

theorem items?_withItems (items : List Value) (v : Value) :
    items? (withItems items v) = some items := by
  fun_induction withItems items v with
  | case1 tag v ih => exact ih
  | case2 v _ => rfl

theorem namedEntries?_withArguments (entries : List Value) (v : Value) :
    namedEntries? (withArguments entries v) = (namedEntries? v).map fun es => es.map fun e =>
      (e.1, if e.1 = "Args" then withItems entries e.2 else e.2) := by
  fun_induction withArguments entries v with
  | case1 tag v ih => exact ih
  | case2 es =>
    simp only [namedEntries?, Value.untagged]
    induction es with
    | nil => rfl
    | cons e es ih =>
      rw [List.map_cons, List.mapM_cons, List.mapM_cons, ih]
      dsimp only [text?]
      cases e.1.text? with
      | none => rfl
      | some name =>
        simp only [Option.map_some, bind, Option.bind_some, Option.some.injEq]
        cases es.mapM fun e => (e.1.text?).map fun name => (name, e.2) <;> rfl
  | case3 v hmapping htagged => cases v <;> first | rfl | simp at hmapping htagged

theorem member?_map_values (g : String → Value → Value) (es : List (String × Value))
    (name : String) :
    member? (es.map fun e => (e.1, g e.1 e.2)) name =
      (member? es name).map (Option.map (g name)) := by
  have hfilter : (es.map fun e => (e.1, g e.1 e.2)).filter (fun e => e.1 = name) =
      (es.filter fun e => e.1 = name).map fun e => (e.1, g e.1 e.2) := List.filter_map
  have hname : ∀ e ∈ es.filter fun e => e.1 = name, e.1 = name := by
    intro e he
    simpa using (List.mem_filter.1 he).2
  rw [member?, member?, hfilter]
  generalize es.filter (fun e => e.1 = name) = found at hname
  match found, hname with
  | [], _ => rfl
  | [e], hname => rw [← hname e List.mem_cons_self]; rfl
  | _ :: _ :: _, _ => rfl

/-- Other arguments change nothing else of a body. -/
theorem Body.read?_withArguments {v : Value} {body : Body} (h : Body.read? v = some body)
    (entries : List Value) :
    ∃ arguments, Body.read? (withArguments entries v) = some { body with arguments } ∧
      (arguments = entries ∨ body.arguments = [] ∧ arguments = []) := by
  simp only [Body.read?, bind, Option.bind_eq_some_iff, namedEntries?_withArguments,
    Option.map_eq_some_iff] at h ⊢
  obtain ⟨es, hes, pass, hpass, name, hname, function, hfunction, location, hlocation, hotness,
    hhotness, found, hfound, h⟩ := h
  have hmember := member?_map_values
    (fun name v => if name = "Args" then withItems entries v else v) es
  have hother {name : String} (hne : name ≠ "Args") :
      member? (es.map fun e => (e.1, if e.1 = "Args" then withItems entries e.2 else e.2)) name =
        member? es name := by
    rw [hmember, funext fun v => if_neg hne]
    simp
  have hargs := hmember "Args"
  rw [hfound] at hargs
  refine ⟨(found.map fun _ => entries).getD [], ?_, ?_⟩
  · refine ⟨_, ⟨es, hes, rfl⟩, pass, ?_, name, ?_, function, ?_, location, ?_, hotness, ?_,
      _, hargs, ?_⟩
    · rw [required?, hother (by decide)]
      exact hpass
    · rw [required?, hother (by decide)]
      exact hname
    · rw [optional?, hother (by decide)]
      exact hfunction
    · rw [optional?, hother (by decide)]
      exact hlocation
    · rw [optional?, hother (by decide)]
      exact hhotness
    · cases found with
      | none =>
        cases h
        rfl
      | some value =>
        obtain ⟨arguments, -, h⟩ := Option.bind_eq_some_iff.1 h
        cases h
        simp only [Option.map_some, if_true, items?_withItems, Option.bind_some, Option.getD_some]
  · cases found with
    | none =>
      cases h
      exact Or.inr ⟨rfl, rfl⟩
    | some value => exact Or.inl rfl

theorem args_of_remark? {document : Value} {r : Remark} (h : remark? document = some r) :
    r.args = argsOf (argumentsOf document) := by
  obtain ⟨status, body, hbody, rfl⟩ := exists_body_of_remark? h
  rw [hbody.arguments]
  rfl

/-- With other arguments a document is accepted as well, and nothing else of the remark changes. -/
theorem remark?_withArguments {document : Value} {r : Remark} (h : remark? document = some r)
    (entries : List Value) :
    ∃ arguments message, remark? (withArguments entries document) =
        some { r with args := argsOf arguments, message } ∧
      (arguments = entries ∨ argumentsOf document = [] ∧ arguments = []) := by
  obtain ⟨tag, v, status, body, rfl, hstatus, hbody, rfl⟩ := exists_read_of_remark? h
  obtain ⟨arguments, hread, hor⟩ := Body.read?_withArguments hbody entries
  refine ⟨arguments, message body.pass body.name arguments, ?_, ?_⟩
  · rw [withArguments]
    simp only [remark?, hstatus, hread, bind, Option.bind_some]
    rfl
  · have harguments : argumentsOf (.tagged tag v) = body.arguments :=
      (Body.of_read? hbody).arguments
    rw [harguments]
    exact hor

end BuildRemarks.Record
