import Remap.Yaml.Engine
import Remap.Yaml.Token

/-!
# Documents as trees

The tree of a document: scalars, sequences and mappings, each with its tag and its anchor, and
aliases. An alias refers to an anchor by a number. A new name gets the number of names so far,
and so does a name that is used again; the number then refers to the last node that has it.

A text that is not well-formed gives the tree of what stands before the fault. All collections that
are open there are torn: they end with a node that says so.
-/

namespace Remap.Yaml

/-- What stands before a node. -/
structure Mark where
  anchor : Option Nat := none
  tag : Option Tag := none
  deriving Repr, Inhabited

/-- A node of a document. -/
inductive Node
  | alias (anchor : Nat)
  | scalar (mark : Mark) (style : Style) (text : String)
  | sequence (mark : Mark) (items : List Node)
  | mapping (mark : Mark) (entries : List (Node × Node))
  /-- Nothing can be read here or further on. -/
  | torn
  deriving Inhabited

/-- A scalar that is not there. -/
def Node.missing : Node := .scalar {} .plain ""

/-- The names of anchors and their numbers. -/
abbrev Anchors := List (String × Nat)

namespace Anchors

/-- The number of a name. -/
def find? (anchors : Anchors) (name : String) : Option Nat :=
  (List.find? (fun entry => entry.1 == name) anchors).map (·.2)

/-- A name used for a node: its number, and the names with it. -/
def declare (anchors : Anchors) (name : String) : Nat × Anchors :=
  let number := anchors.length
  (number, (name, number) :: anchors.filter fun entry => entry.1 != name)

end Anchors

/-! ## Reading

Readers give what they read, the tokens behind it and the names of anchors so far. Where they cannot
go on, no token but a fault is left. -/

/-- What a reader gives. -/
abbrev Read (α : Type) := α × List Token × Anchors

/-- A reader that cannot go on. -/
def tornAt {α : Type} (a : α) (anchors : Anchors) : Read α := (a, [.fault], anchors)

/-- The anchor and the tag before a node, in either order; nothing where a tag has no meaning. -/
def readMark (handles : Handles) (anchors : Anchors) (ts : List Token) : Option (Read Mark) :=
  let anchored (name : String) : Option Nat × Anchors :=
    let (number, anchors) := anchors.declare name
    (some number, anchors)
  match ts with
  | .anchor name :: .tag handle ending :: rest | .tag handle ending :: .anchor name :: rest => do
    let tag ← handles.resolve? handle ending
    let (anchor, anchors) := anchored name
    return (⟨anchor, some tag⟩, rest, anchors)
  | .anchor name :: rest =>
    let (anchor, anchors) := anchored name
    some (⟨anchor, none⟩, rest, anchors)
  | .tag handle ending :: rest => do
    let tag ← handles.resolve? handle ending
    return (⟨none, some tag⟩, rest, anchors)
  | ts => some ({}, ts, anchors)

/-- Something stands before the node. -/
def Mark.isPresent (m : Mark) : Bool := m.anchor.isSome || m.tag.isSome

/-- The next token ends an entry of a block mapping. -/
def endsBlockPart : List Token → Bool
  | .key :: _ | .value :: _ | .blockEnd :: _ => true
  | _ => false

/-- The next token ends an item of a sequence that is not indented. -/
def endsPlainItem : List Token → Bool
  | .blockEntry :: _ => true
  | ts => endsBlockPart ts

/-- The next token ends a part of a mapping in braces. -/
def endsFlowPart : List Token → Bool
  | .value :: _ | .flowEntry :: _ | .flowMappingEnd :: _ => true
  | _ => false

/-- The next token ends a part of a pair in brackets. -/
def endsFlowPair : List Token → Bool
  | .value :: _ | .flowEntry :: _ | .flowSequenceEnd :: _ => true
  | _ => false

mutual
/-- A node. Block collections can start only where `block` says so, and a sequence that is not
indented only where `unindented` says so. -/
def readNode (handles : Handles) (block unindented : Bool) : (fuel : Nat) → Anchors →
    List Token → Read Node
  | 0, anchors, _ => tornAt .torn anchors
  | _ + 1, anchors, .alias name :: rest =>
    match anchors.find? name with
    | some number => (.alias number, rest, anchors)
    | none => tornAt .torn anchors
  | fuel + 1, anchors, ts =>
    match readMark handles anchors ts with
    | none => tornAt .torn anchors
    | some (mark, ts, anchors) =>
      let empty : Read Node :=
        if mark.isPresent && ts != [.fault] then (.scalar mark .plain "", ts, anchors)
        else tornAt .torn anchors
      match ts with
      | .scalar style text :: rest => (.scalar mark style text, rest, anchors)
      | .flowSequenceStart :: rest =>
        let (items, rest) := readFlowItems handles fuel anchors true rest
        (.sequence mark items, rest)
      | .flowMappingStart :: rest =>
        let (entries, rest) := readFlowEntries handles fuel anchors true rest
        (.mapping mark entries, rest)
      | .blockEntry :: _ =>
        if unindented then
          let (items, rest) := readPlainItems handles fuel anchors ts
          (.sequence mark items, rest)
        else empty
      | .blockSequenceStart :: rest =>
        if block then
          let (items, rest) := readBlockItems handles fuel anchors rest
          (.sequence mark items, rest)
        else empty
      | .blockMappingStart :: rest =>
        if block then
          let (entries, rest) := readBlockEntries handles fuel anchors rest
          (.mapping mark entries, rest)
        else empty
      | _ => empty

/-- The items of a block sequence up to its end. -/
def readBlockItems (handles : Handles) : (fuel : Nat) → Anchors → List Token → Read (List Node)
  | 0, anchors, _ => tornAt [.torn] anchors
  | fuel + 1, anchors, ts =>
    match ts with
    | .blockEnd :: rest => ([], rest, anchors)
    | .blockEntry :: rest =>
      let (item, rest, anchors) :=
        match rest with
        | .blockEntry :: _ | .blockEnd :: _ => (Node.missing, rest, anchors)
        | _ => readNode handles true false fuel anchors rest
      let (items, rest) := readBlockItems handles fuel anchors rest
      (item :: items, rest)
    | _ => tornAt [.torn] anchors

/-- The items of a sequence that is not indented. -/
def readPlainItems (handles : Handles) : (fuel : Nat) → Anchors → List Token → Read (List Node)
  | 0, anchors, _ => tornAt [.torn] anchors
  | fuel + 1, anchors, ts =>
    match ts with
    | .blockEntry :: rest =>
      let (item, rest, anchors) :=
        if endsPlainItem rest then (Node.missing, rest, anchors)
        else readNode handles true false fuel anchors rest
      let (items, rest) := readPlainItems handles fuel anchors rest
      (item :: items, rest)
    | [.fault] => tornAt [.torn] anchors
    | ts => ([], ts, anchors)

/-- The entries of a block mapping up to its end. -/
def readBlockEntries (handles : Handles) : (fuel : Nat) → Anchors → List Token →
    Read (List (Node × Node))
  | 0, anchors, _ => tornAt [(.torn, .torn)] anchors
  | fuel + 1, anchors, ts =>
    match ts with
    | .blockEnd :: rest => ([], rest, anchors)
    | .key :: rest =>
      let (key, rest, anchors) :=
        if endsBlockPart rest then (Node.missing, rest, anchors)
        else readNode handles true true fuel anchors rest
      let (value, rest, anchors) := readBlockValue handles fuel anchors rest
      let (entries, rest) := readBlockEntries handles fuel anchors rest
      ((key, value) :: entries, rest)
    | .value :: _ =>
      let (value, rest, anchors) := readBlockValue handles fuel anchors ts
      let (entries, rest) := readBlockEntries handles fuel anchors rest
      ((Node.missing, value) :: entries, rest)
    | _ => tornAt [(.torn, .torn)] anchors

/-- The value of an entry of a block mapping. -/
def readBlockValue (handles : Handles) : (fuel : Nat) → Anchors → List Token → Read Node
  | 0, anchors, _ => tornAt .torn anchors
  | fuel + 1, anchors, ts =>
    match ts with
    | .value :: rest =>
      if endsBlockPart rest then (Node.missing, rest, anchors)
      else readNode handles true true fuel anchors rest
    | [.fault] => tornAt .torn anchors
    | ts => (Node.missing, ts, anchors)

/-- The items of a sequence in brackets up to its end. -/
def readFlowItems (handles : Handles) : (fuel : Nat) → Anchors → (first : Bool) → List Token →
    Read (List Node)
  | 0, anchors, _, _ => tornAt [.torn] anchors
  | fuel + 1, anchors, first, ts =>
    match first, ts with
    | _, .flowSequenceEnd :: rest => ([], rest, anchors)
    | false, .flowEntry :: rest => readFlowItems handles fuel anchors true rest
    | false, _ => tornAt [.torn] anchors
    | true, .key :: rest =>
      let (pair, rest, anchors) := readFlowPair handles fuel anchors rest
      let (items, rest) := readFlowItems handles fuel anchors false rest
      (.mapping {} [pair] :: items, rest)
    | true, ts =>
      let (item, rest, anchors) := readNode handles false false fuel anchors ts
      let (items, rest) := readFlowItems handles fuel anchors false rest
      (item :: items, rest)

/-- A pair in brackets after the mark of its key. Where the key is missing, the next token is
passed over. -/
def readFlowPair (handles : Handles) : (fuel : Nat) → Anchors → List Token → Read (Node × Node)
  | 0, anchors, _ => tornAt (.torn, .torn) anchors
  | fuel + 1, anchors, ts =>
    let (key, rest, anchors) :=
      if endsFlowPair ts then (Node.missing, ts.tail, anchors)
      else readNode handles false false fuel anchors ts
    match rest with
    | .value :: rest =>
      match rest with
      | .flowEntry :: _ | .flowSequenceEnd :: _ => ((key, Node.missing), rest, anchors)
      | _ =>
        let (value, rest) := readNode handles false false fuel anchors rest
        ((key, value), rest)
    | [.fault] => tornAt (key, .torn) anchors
    | rest => ((key, Node.missing), rest, anchors)

/-- The entries of a mapping in braces up to its end. -/
def readFlowEntries (handles : Handles) : (fuel : Nat) → Anchors → (first : Bool) → List Token →
    Read (List (Node × Node))
  | 0, anchors, _, _ => tornAt [(.torn, .torn)] anchors
  | fuel + 1, anchors, first, ts =>
    match first, ts with
    | _, .flowMappingEnd :: rest => ([], rest, anchors)
    | false, .flowEntry :: rest => readFlowEntries handles fuel anchors true rest
    | false, _ => tornAt [(.torn, .torn)] anchors
    | true, .key :: rest =>
      let (key, rest, anchors) :=
        if endsFlowPart rest then (Node.missing, rest, anchors)
        else readNode handles false false fuel anchors rest
      let (value, rest, anchors) :=
        match rest with
        | .value :: rest =>
          match rest with
          | .flowEntry :: _ | .flowMappingEnd :: _ => (Node.missing, rest, anchors)
          | _ => readNode handles false false fuel anchors rest
        | [.fault] => tornAt .torn anchors
        | rest => (Node.missing, rest, anchors)
      let (entries, rest) := readFlowEntries handles fuel anchors false rest
      ((key, value) :: entries, rest)
    | true, ts =>
      let (key, rest, anchors) := readNode handles false false fuel anchors ts
      let value : Node := if rest == [.fault] then .torn else .missing
      let (entries, rest) := readFlowEntries handles fuel anchors false rest
      ((key, value) :: entries, rest)
end

/-- The handles that directives declare; a version may be given once and has to be known. -/
def readDirectives (versioned : Bool) (handles : Handles) : List Token →
    Option (Handles × List Token)
  | .version major minor :: rest =>
    if versioned || major != 1 || (minor != 1 && minor != 2) then none
    else readDirectives true handles rest
  | .tagHandle handle start :: rest =>
    if handles.any fun entry => entry.1 == handle then none
    else readDirectives versioned ((handle, start) :: handles) rest
  | ts => some (handles, ts)

/-- The root of a document, and the tokens behind it. -/
def readRoot (handles : Handles) (ts : List Token) : Node × List Token :=
  let (node, rest, _) := readNode handles true false (4 * ts.length + 4) [] ts
  (node, rest)

/-- The content of a document after its start mark, and the tokens behind it. -/
def readContent (handles : Handles) (ts : List Token) : Node × List Token :=
  match ts with
  | .version .. :: _ | .tagHandle .. :: _ | .documentStart :: _ | .documentEnd :: _
  | .streamEnd :: _ => (Node.missing, ts)
  | _ => readRoot handles ts

/-- The first document, and the tokens behind it. -/
def readDocument (ts : List Token) : Node × List Token :=
  match ts with
  | .streamEnd :: _ => (Node.missing, ts)
  | .version .. :: _ | .tagHandle .. :: _ | .documentStart :: _ =>
    match readDirectives false [] ts with
    | some (handles, .documentStart :: rest) => readContent handles rest
    | _ => (.torn, [.fault])
  | ts => readRoot [] ts

/-- Nothing but marks of an end is left. -/
def isFinished : List Token → Bool
  | .documentEnd :: rest => isFinished rest
  | .streamEnd :: _ => true
  | _ => false

/-- The first document of a text, and what is wrong behind it. -/
def firstDocument (text : String) : Node × Option ReadFault :=
  let (node, rest) := readDocument (tokens text)
  (node,
    if rest == [.fault] then some .malformed
    else if isFinished rest then none
    else some .moreThanOne)

end Remap.Yaml
