import Remap.Datum.Basic
import Remap.Yaml.Alias
import Remap.Yaml.Meaning

/-!
# Nodes as data

Two ways to read a node. A part whose kind is known is read for that kind, so that any scalar is a
text where a text is wanted, and what is not asked for is not looked at. Otherwise the node is
data: plain scalars then mean what they look like, and a tag of one's own is a fault.

Both follow aliases on the way, in the order in which the parts are written, and both go only so
deep into collections.
-/

namespace Remap.Yaml

/-- The name of a tag of one's own. -/
def Mark.ownTag? (m : Mark) : Option String := m.tag.bind Tag.ownName?

/-- The tag is the common one of a name. -/
def Mark.isCommon (m : Mark) (name : String) : Bool := m.tag == some (Tag.common name)

/-- The whole number, if data can hold it. -/
def integerDatum? : Bool × Nat → Option Datum
  | (true, n) => if n ≤ Nat.pow 2 63 then some (.negative n) else none
  | (false, n) => if n < Nat.pow 2 64 then some (.natural n) else none

/-- A scalar as data. -/
def scalarDatum? (m : Mark) (style : Style) (text : String) : Option Datum :=
  if m.ownTag?.isSome then none
  else if m.isCommon "bool" then (truthWord? text).map .boolean
  else if m.isCommon "int" then (wholeNumber? text.toList).bind integerDatum?
  else if m.isCommon "float" then (decimalNumber? text.toList).map .decimal
  else if m.isCommon "null" then if isNullWord text then some .null else none
  else if m.tag.isSome || style != .plain then some (.text text)
  else
    match meaning text with
    | .null => some .null
    | .boolean b => some (.boolean b)
    | .integer minus n => integerDatum? (minus, n)
    | .decimal x => some (.decimal x)
    | .text => some (.text text)

/-- The key of a table that data stand for. -/
def keyOf : Datum → Key
  | .text s => .name s
  | .natural n => .position n
  | _ => .other

/-- What is there, or a fault. -/
def Following.require {β : Type} : Option β → Following β
  | some b => return b
  | none => throw .malformed

/-- A node, and how deep collections may be nested in it. -/
structure Site where
  node : Node
  depth : Nat
  deriving Inhabited

namespace Site

variable (targets : Targets)

/-- A node as data. -/
def datumAt : (depth : Nat) → Node → Following Datum
  | 0, node => do
    match ← node.follow targets with
    | .scalar m style text => Following.require (scalarDatum? m style text)
    | _ => throw ReadFault.malformed
  | depth + 1, node => do
    match ← node.follow targets with
    | .scalar m style text => Following.require (scalarDatum? m style text)
    | .sequence m items =>
      if m.ownTag?.isSome then throw ReadFault.malformed
      return .list (← items.mapM (datumAt depth))
    | .mapping m entries =>
      if m.ownTag?.isSome then throw ReadFault.malformed
      return .table (← entries.mapM fun (key, value) => do
        let key ← datumAt depth key
        let value ← datumAt depth value
        return (keyOf key, value))
    | _ => throw ReadFault.malformed

/-- The text of a scalar, however it is written. -/
def text (s : Site) : Following String := do
  match ← s.node.follow targets with
  | .scalar _ _ text => return text
  | _ => throw .malformed

/-- The scalar is plain, or a literal one with a common tag. -/
def isWord (name : String) (m : Mark) (style : Style) : Bool :=
  style == .plain || (style == .literal && m.isCommon name)

/-- A truth value. -/
def flag (s : Site) : Following Bool := do
  match ← s.node.follow targets with
  | .scalar m style text =>
    if isWord "bool" m style then Following.require (truthWord? text) else throw .malformed
  | _ => throw .malformed

/-- A part that may be null: empty or a word for null, if it is plain and has no other tag. -/
def optional (s : Site) : Following (Option Site) := do
  let node ← s.node.follow targets
  match node with
  | .scalar m .plain text =>
    if m.isCommon "null" then if isNullWord text then return none else throw .malformed
    else if m.tag.isNone && (text.isEmpty || isNullWord text) then return none
    else return some { s with node }
  | _ => return some { s with node }

/-- The items of a sequence; nothing at all is an empty one. -/
def items (s : Site) : Following (List Site) := do
  match ← s.node.follow targets, s.depth with
  | .sequence _ items, depth + 1 => return items.map (⟨·, depth⟩)
  | node, _ => if node.isMissing then return [] else throw .malformed

/-- The position of the word that a scalar is, or that a tag of one's own says. -/
def choice (words : List String) (s : Site) : Following Nat := do
  match ← s.node.follow targets with
  | .scalar m style text =>
    match m.ownTag? with
    | some word =>
      if style == .plain && (text.isEmpty || isNullWord text) then
        Following.require (words.idxOf? word)
      else throw .malformed
    | none => Following.require (words.idxOf? text)
  | _ => throw .malformed

/-- The contents of fields, read as they come and put in the places of their fields. A field may
not be there twice; entries of other names are passed over. -/
def readEntries {β : Type} (parts : List (String × (Site → Following β))) (depth : Nat) :
    List (Node × Node) → List (Option β) → Following (List (Option β))
  | [], found => return found
  | (key, value) :: rest, found => do
    let name ← text targets ⟨key, depth⟩
    match parts.findIdx? fun part => part.1 == name with
    | none => readEntries parts depth rest found
    | some i =>
      match parts[i]?, found[i]? with
      | some (_, read), some none => do
        let b ← read ⟨value, depth⟩
        readEntries parts depth rest (found.set i (some b))
      | _, _ => throw .malformed

/-- The contents of named fields; nothing at all is a mapping without entries. -/
def fields {β : Type} (parts : List (String × (Site → Following β))) (s : Site) :
    Following (List (Option β)) := do
  let nothing := parts.map fun _ => none
  match ← s.node.follow targets, s.depth with
  | .mapping _ entries, depth + 1 => readEntries targets parts depth entries nothing
  | node, _ => if node.isMissing then return nothing else throw .malformed

/-- Entries as data. The content of one name is one of some words, however it is written; that name
may not be there twice. -/
def readTagged (name : String) (words : List String) (depth : Nat) : (seen : Bool) →
    List (Node × Node) → Following (List (Key × Datum))
  | _, [] => return []
  | seen, (key, value) :: rest => do
    let key := keyOf (← datumAt targets depth key)
    if key == .name name then
      if seen then throw .malformed
      let word ← text targets ⟨value, depth⟩
      if !words.contains word then throw .malformed
      return (key, .text word) :: (← readTagged name words depth true rest)
    else
      let d ← datumAt targets depth value
      return (key, d) :: (← readTagged name words depth seen rest)

/-- A tagged choice as data: the word that makes the choice is a text however it is written. It
is the content of a name, or the first item. -/
def taggedDatum (name : String) (words : List String) (s : Site) : Following Datum := do
  match ← s.node.follow targets, s.depth with
  | .mapping m entries, depth + 1 =>
    if m.ownTag?.isSome then throw .malformed
    return .table (← readTagged targets name words depth false entries)
  | .sequence m (word :: items), depth + 1 =>
    if m.ownTag?.isSome then throw .malformed
    let word ← text targets ⟨word, depth⟩
    if !words.contains word then throw .malformed
    let ds ← items.mapM (datumAt targets depth)
    return .list (.text word :: ds)
  | _, _ => throw .malformed

/-- How the parts of a definition show in nodes. -/
def form : TaggedForm Following Site where
  malformed := throw .malformed
  text := text targets
  flag := flag targets
  optional := optional targets
  items := items targets
  choice := choice targets
  fields := fields targets
  tagged := taggedDatum targets

end Site

end Remap.Yaml
