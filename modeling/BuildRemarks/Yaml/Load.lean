import BuildRemarks.Yaml.Lexer
import BuildRemarks.Yaml.Links
import BuildRemarks.Yaml.Scalar

/-!
# Loading a YAML stream

The values of the documents of a stream. A tag that starts with an exclamation mark stays
with its value. Collections may be nested 128 deep, and the aliases of a document may be
followed a hundred times for each unit of its size.
-/

namespace BuildRemarks.Yaml

/-- How deep collections may be nested. -/
def depthLimit : Nat := 128

/-- How often aliases may be followed, for each unit of the size of a document. -/
def aliasFactor : Nat := 100

/-- A computation that follows aliases; it counts how often that may still be done. -/
abbrev Following := StateT Nat Option

/-- The text of a tag of its own, without its exclamation mark unless that is all. -/
def ownTag? (tag : Option Octets) : Option String :=
  match tag with
  | some (0x21 :: rest) => Text.decode? (if rest.isEmpty then [0x21] else rest)
  | _ => none

def Linked.tag : Linked → Option Octets
  | aliasOf _ => none
  | scalar tag .. => tag
  | sequence tag _ => tag
  | mapping tag _ => tag

def Links.follow (l : Links) (number : Nat) : Following Linked := fun left =>
  match left with
  | 0 => none
  | left + 1 => (l.target? number).map fun node => (node, left)

/-- The node itself, or the node that it is an alias of. -/
def Links.resolve (l : Links) (spent : Bool) : Linked → Following (Bool × Linked)
  | .aliasOf number => do
    let node ← l.follow number
    pure (false, node)
  | node => pure (spent, node)

def itemValues (value : Linked → Following Value) : List Linked → Following (List Value)
  | [] => pure []
  | n :: ns => do
    let v ← value n
    let vs ← itemValues value ns
    pure (v :: vs)

/-- The entries of a mapping behind those of `seen`, whose keys must not come again. -/
def entryValues (key value : Linked → Following Value) :
    List (Value × Value) → List (Linked × Linked) → Following (List (Value × Value))
  | seen, [] => pure seen
  | seen, (k, v) :: es => do
    let k ← key k
    if seen.any fun e => e.1.same k then failure
    else
      let v ← value v
      entryValues key value (seen ++ [(k, v)]) es

/-- The value of a node without its own tag. `inner` gives the values of the nodes inside
it, if it may hold any; `spent` passes on to the keys of a mapping. -/
def contentValue (inner : Option (Bool → Linked → Following Value)) (spent : Bool) :
    Linked → Following Value
  | .aliasOf _ => failure
  | .scalar tag text plain =>
    StateT.lift (scalarValue? (if spent then none else tag) text plain)
  | .sequence _ items =>
    match inner with
    | none => failure
    | some inner => .sequence <$> itemValues (inner false) items
  | .mapping _ entries =>
    match inner with
    | none => failure
    | some inner => .mapping <$> entryValues (inner spent) (inner false) [] entries

/-- The value of a node, with its own tag unless that is `spent`. -/
def nodeValue (links : Links) (inner : Option (Bool → Linked → Following Value))
    (spent : Bool) (node : Linked) : Following Value := do
  let (spent, node) ← links.resolve spent node
  match if spent then none else ownTag? node.tag with
  | some tag => .tagged tag <$> contentValue inner true node
  | none => contentValue inner spent node

/-- The value of a node in which collections may be nested so deep. -/
def valueWithin (links : Links) : (depth : Nat) → (spent : Bool) → Linked → Following Value
  | 0 => nodeValue links none
  | depth + 1 => nodeValue links (some (valueWithin links depth))

def Document.value? (d : Document) : Option Value :=
  ((valueWithin d.links depthLimit false d.root).run (aliasFactor * d.links.size)).map (·.1)

/-- The values of the documents of a stream. A stream without documents has one null. -/
def load? (text : String) : Option (List Value) := do
  let tokens ← tokens? text.toList
  let roots ← documents? tokens
  if roots.isEmpty then some [.null]
  else roots.mapM fun root => do
    let document ← Document.ofNode? root
    document.value?

end BuildRemarks.Yaml
