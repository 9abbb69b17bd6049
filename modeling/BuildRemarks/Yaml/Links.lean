import BuildRemarks.NameMap
import BuildRemarks.Yaml.Node

/-!
# Aliases

Anchors are numbered in the order of the document: an anchor gets the number of the names
that have been used before it, whether for one node or for several. An alias means the
number that its name had last, and stands for the last node of the document with that
number. A document also has a size, counted in scalars, aliases and brackets, which
bounds how often its aliases may be followed.
-/

namespace BuildRemarks.Yaml

/-- A node whose aliases are numbers. -/
inductive Linked where
  | aliasOf (number : Nat)
  | scalar (tag : Option Octets) (text : String) (plain : Bool)
  | sequence (tag : Option Octets) (items : List Linked)
  | mapping (tag : Option Octets) (entries : List (Linked × Linked))

structure Anchored where
  number : Nat
  /-- The size of the document before the node. -/
  position : Nat
  node : Linked

structure Links where
  numbers : NameMap Nat := .empty
  anchored : List Anchored := []
  /-- The size of the document so far. -/
  size : Nat := 0

namespace Links

/-- A name is used for one more anchor. -/
def name (l : Links) : Option String → Option Nat × Links
  | none => (none, l)
  | some name => (some l.numbers.size, { l with numbers := l.numbers.insert name l.numbers.size })

def grow (l : Links) (n : Nat) : Links := { l with size := l.size + n }

def anchor (l : Links) (number : Option Nat) (position : Nat) (node : Linked) : Links :=
  match number with
  | none => l
  | some number => { l with anchored := ⟨number, position, node⟩ :: l.anchored }

mutual

/-- Links a node. It fails where an alias has no anchor before it. -/
def link (l : Links) : Node → Option (Linked × Links)
  | .aliasOf name => do
    let number ← l.numbers.get? name
    some (.aliasOf number, l.grow 1)
  | .scalar p text plain =>
    let (number, l') := l.name p.anchor
    let node := Linked.scalar p.tag text plain
    some (node, (l'.grow 1).anchor number l.size node)
  | .sequence p items => do
    let (number, l') := l.name p.anchor
    let (items, l') ← linkItems (l'.grow 1) items
    let node := Linked.sequence p.tag items
    some (node, (l'.grow 1).anchor number l.size node)
  | .mapping p entries => do
    let (number, l') := l.name p.anchor
    let (entries, l') ← linkEntries (l'.grow 1) entries
    let node := Linked.mapping p.tag entries
    some (node, (l'.grow 1).anchor number l.size node)

def linkItems (l : Links) : List Node → Option (List Linked × Links)
  | [] => some ([], l)
  | n :: ns => do
    let (first, l) ← l.link n
    let (items, l) ← linkItems l ns
    some (first :: items, l)

def linkEntries (l : Links) : List (Node × Node) → Option (List (Linked × Linked) × Links)
  | [] => some ([], l)
  | (k, v) :: es => do
    let (key, l) ← l.link k
    let (value, l) ← l.link v
    let (entries, l) ← linkEntries l es
    some ((key, value) :: entries, l)

end

/-- The later of two nodes of one number. -/
def later (number : Nat) (found : Option Anchored) (a : Anchored) : Option Anchored :=
  if a.number ≠ number then found
  else match found with
    | none => some a
    | some b => if b.position < a.position then some a else some b

/-- The last node with a number. -/
def target? (l : Links) (number : Nat) : Option Linked :=
  (l.anchored.foldl (later number) none).map (·.node)

end Links

structure Document where
  root : Linked
  links : Links

def Document.ofNode? (root : Node) : Option Document := do
  let (root, links) ← Links.link {} root
  some { root, links }

end BuildRemarks.Yaml
