import BuildRemarks.Yaml.Token

/-!
# Nodes of a YAML document

A document is a tree of nodes. A node is a scalar, a sequence, a mapping, or the alias of
a node that has an anchor. `documents?` reads the trees of a stream from its tokens.
-/

namespace BuildRemarks.Yaml

structure Properties where
  anchor : Option String := none
  tag : Option Octets := none

inductive Node where
  | aliasOf (name : String)
  | scalar (properties : Properties) (text : String) (plain : Bool)
  | sequence (properties : Properties) (items : List Node)
  | mapping (properties : Properties) (entries : List (Node × Node))

namespace Node

/-- The node that stands where a node is left out. -/
def empty : Node := scalar {} "" true

end Node

abbrev Handles := List (Octets × Octets)

def defaultHandles : Handles :=
  [(octetsOf ['!'], octetsOf ['!']),
    (octetsOf ['!', '!'], octetsOf "tag:yaml.org,2002:".toList)]

def resolveTag? (handles : Handles) (handle suffix : Octets) : Option Octets :=
  if handle.isEmpty then some suffix
  else (handles.lookup handle).map fun lead => lead ++ suffix

def properties? (handles : Handles) : List Token → Option (Properties × List Token)
  | .anchor name :: .tag handle suffix :: ts
  | .tag handle suffix :: .anchor name :: ts => do
    let tag ← resolveTag? handles handle suffix
    some (⟨some name, some tag⟩, ts)
  | .anchor name :: ts => some (⟨some name, none⟩, ts)
  | .tag handle suffix :: ts => do
    let tag ← resolveTag? handles handle suffix
    some (⟨none, some tag⟩, ts)
  | ts => some ({}, ts)

/-- A single exclamation mark is no tag of a scalar. -/
def Properties.ofScalar (p : Properties) : Properties :=
  if p.tag = some (octetsOf ['!']) then { p with tag := none } else p

def Properties.isSome (p : Properties) : Bool := p.anchor.isSome || p.tag.isSome

def omitsItem : List Token → Bool
  | .item :: _ | .blockEnd :: _ => true
  | _ => false

/-- The next token leaves out an item of a sequence that is not indented. -/
def omitsFlushItem : List Token → Bool
  | .item :: _ | .key :: _ | .value :: _ | .blockEnd :: _ => true
  | _ => false

def omitsEntry : List Token → Bool
  | .key :: _ | .value :: _ | .blockEnd :: _ => true
  | _ => false

/-- The next token leaves out a key or a value between brackets that `close` closes. -/
def omitsFlow (close : Token) : List Token → Bool
  | [] => false
  | t :: _ => t == .comma || t == close

/-- The tokens behind the comma before all items but the first. -/
def behindComma? (first : Bool) : List Token → Option (List Token)
  | .comma :: ts => if first then none else some ts
  | ts => if first then some ts else none

mutual

/-- A node. `block` allows blocks, `flush` also a sequence that is not indented. -/
def node (handles : Handles) : (fuel : Nat) → (block flush : Bool) → List Token →
    Option (Node × List Token)
  | 0, _, _, _ => none
  | fuel + 1, block, flush, ts =>
    match ts with
    | .aliasOf name :: ts => some (.aliasOf name, ts)
    | ts => do
      let (p, ts) ← properties? handles ts
      match ts with
      | .item :: _ =>
        if flush then do
          let (items, ts) ← flushItems handles fuel ts
          some (.sequence p items, ts)
        else if p.isSome then some (.scalar p "" true, ts)
        else none
      | .scalar text plain :: ts => some (.scalar p.ofScalar text plain, ts)
      | .flowSequence :: ts => do
        let (items, ts) ← flowItems handles fuel true ts
        some (.sequence p items, ts)
      | .flowMapping :: ts => do
        let (entries, ts) ← flowEntries handles fuel true ts
        some (.mapping p entries, ts)
      | .blockSequence :: rest =>
        if block then do
          let (items, ts) ← blockItems handles fuel rest
          some (.sequence p items, ts)
        else if p.isSome then some (.scalar p "" true, ts)
        else none
      | .blockMapping :: rest =>
        if block then do
          let (entries, ts) ← blockEntries handles fuel rest
          some (.mapping p entries, ts)
        else if p.isSome then some (.scalar p "" true, ts)
        else none
      | ts => if p.isSome then some (.scalar p "" true, ts) else none

def nodeUnless (handles : Handles) : (fuel : Nat) → (omitted block flush : Bool) →
    List Token → Option (Node × List Token)
  | 0, _, _, _, _ => none
  | fuel + 1, omitted, block, flush, ts =>
    if omitted then some (.empty, ts) else node handles fuel block flush ts

def blockItems (handles : Handles) : (fuel : Nat) → List Token →
    Option (List Node × List Token)
  | fuel + 1, .item :: ts => do
    let (first, ts) ← nodeUnless handles fuel (omitsItem ts) true false ts
    let (items, ts) ← blockItems handles fuel ts
    some (first :: items, ts)
  | _ + 1, .blockEnd :: ts => some ([], ts)
  | _, _ => none

/-- The items of a sequence that is not indented; it ends where no dash follows. -/
def flushItems (handles : Handles) : (fuel : Nat) → List Token →
    Option (List Node × List Token)
  | 0, _ => none
  | fuel + 1, .item :: ts => do
    let (first, ts) ← nodeUnless handles fuel (omitsFlushItem ts) true false ts
    let (items, ts) ← flushItems handles fuel ts
    some (first :: items, ts)
  | _ + 1, ts => some ([], ts)

def blockEntries (handles : Handles) : (fuel : Nat) → List Token →
    Option (List (Node × Node) × List Token)
  | fuel + 1, .key :: ts => do
    let (key, ts) ← nodeUnless handles fuel (omitsEntry ts) true true ts
    let (value, ts) ←
      match ts with
      | .value :: ts => nodeUnless handles fuel (omitsEntry ts) true true ts
      | ts => some (.empty, ts)
    let (entries, ts) ← blockEntries handles fuel ts
    some ((key, value) :: entries, ts)
  | _ + 1, .blockEnd :: ts => some ([], ts)
  | _, _ => none

/-- The value of an entry between brackets that `close` closes. It may be left out, with
the colon or without. -/
def flowValue (handles : Handles) : (fuel : Nat) → (close : Token) → List Token →
    Option (Node × List Token)
  | 0, _, _ => none
  | fuel + 1, close, .value :: ts => nodeUnless handles fuel (omitsFlow close ts) false false ts
  | _ + 1, _, ts => some (.empty, ts)

/-- The items of a flow sequence, up to its end. An item may be a single entry of a
mapping. -/
def flowItems (handles : Handles) : (fuel : Nat) → (first : Bool) → List Token →
    Option (List Node × List Token)
  | 0, _, _ => none
  | _ + 1, _, .flowSequenceEnd :: ts => some ([], ts)
  | fuel + 1, first, ts => do
    let ts ← behindComma? first ts
    match ts with
    | .flowSequenceEnd :: ts => some ([], ts)
    | .key :: .value :: ts | .key :: .comma :: ts | .key :: .flowSequenceEnd :: ts => do
      let (value, ts) ← flowValue handles fuel .flowSequenceEnd ts
      let (items, ts) ← flowItems handles fuel false ts
      some (.mapping {} [(.empty, value)] :: items, ts)
    | .key :: ts => do
      let (key, ts) ← node handles fuel false false ts
      let (value, ts) ← flowValue handles fuel .flowSequenceEnd ts
      let (items, ts) ← flowItems handles fuel false ts
      some (.mapping {} [(key, value)] :: items, ts)
    | ts => do
      let (item, ts) ← node handles fuel false false ts
      let (items, ts) ← flowItems handles fuel false ts
      some (item :: items, ts)

def flowEntries (handles : Handles) : (fuel : Nat) → (first : Bool) → List Token →
    Option (List (Node × Node) × List Token)
  | 0, _, _ => none
  | _ + 1, _, .flowMappingEnd :: ts => some ([], ts)
  | fuel + 1, first, ts => do
    let ts ← behindComma? first ts
    match ts with
    | .flowMappingEnd :: ts => some ([], ts)
    | .key :: ts => do
      let omitted := omitsFlow .flowMappingEnd ts || ts.head? == some .value
      let (key, ts) ← nodeUnless handles fuel omitted false false ts
      let (value, ts) ← flowValue handles fuel .flowMappingEnd ts
      let (entries, ts) ← flowEntries handles fuel false ts
      some ((key, value) :: entries, ts)
    | ts => do
      let (key, ts) ← node handles fuel false false ts
      let (entries, ts) ← flowEntries handles fuel false ts
      some ((key, .empty) :: entries, ts)

end

/-- Enough for any nodes that the tokens make up. -/
def nodeFuel (ts : List Token) : Nat := 4 * ts.length + 4

def isKnownVersion (major minor : Nat) : Bool := major == 1 && (minor == 1 || minor == 2)

/-- The directives of a document: at most one version, and handles each of one meaning. -/
def directives? (hasVersion : Bool) (handles : Handles) :
    List Token → Option (Handles × List Token)
  | .version major minor :: ts =>
    if hasVersion || !isKnownVersion major minor then none else directives? true handles ts
  | .handle handle lead :: ts =>
    if (handles.lookup handle).isSome then none
    else directives? hasVersion (handles ++ [(handle, lead)]) ts
  | ts => some (handles ++ defaultHandles, ts)

def atDocumentEdge : List Token → Bool
  | [] => true
  | t :: _ => t.isDirective || t == .documentStart || t == .documentEnd

/-- A document with its start mark, directives included. -/
def markedDocument? (ts : List Token) : Option (Node × List Token) := do
  let (handles, ts) ← directives? false [] ts
  match ts with
  | .documentStart :: ts =>
    if atDocumentEdge ts then some (.empty, ts) else node handles (nodeFuel ts) true false ts
  | _ => none

def behindEndMark : List Token → List Token
  | .documentEnd :: ts => ts
  | ts => ts

def markedDocuments? : (fuel : Nat) → List Token → Option (List Node)
  | 0, _ => none
  | fuel + 1, ts =>
    match ts.dropWhile (· == .documentEnd) with
    | [] => some []
    | ts => do
      let (root, ts) ← markedDocument? ts
      let roots ← markedDocuments? fuel (behindEndMark ts)
      some (root :: roots)

/-- The documents of a stream. The first may go without its start mark. -/
def documents? (ts : List Token) : Option (List Node) :=
  match ts with
  | [] => some []
  | t :: _ =>
    if t.isDirective || t == .documentStart then markedDocuments? (ts.length + 1) ts
    else do
      let (root, ts) ← node defaultHandles (nodeFuel ts) true false ts
      let roots ← markedDocuments? (ts.length + 1) (behindEndMark ts)
      some (root :: roots)

end BuildRemarks.Yaml
