import Remap.Yaml.Node

/-!
# Following aliases

What an alias refers to. How often aliases may be followed is limited, so that a short document
cannot be read as a huge tree.
-/

namespace Remap.Yaml

/-- The scalar is empty and plain. -/
def Node.isMissing : Node → Bool
  | .scalar _ style text => style == .plain && text.isEmpty
  | _ => false

/-- The number of an anchored node, and the node. -/
abbrev Targets := List (Nat × Node)

mutual
/-- The anchored nodes of a tree in order, put after those so far. -/
def targets (node : Node) (found : Targets) : Targets :=
  match node with
  | .alias _ | .torn => found
  | .scalar mark .. => anchored mark node found
  | .sequence mark items => targetsOfItems items (anchored mark node found)
  | .mapping mark entries => targetsOfEntries entries (anchored mark node found)
where
  /-- The node itself, if it has an anchor. -/
  anchored (mark : Mark) (node : Node) (found : Targets) : Targets :=
    match mark.anchor with
    | some number => found ++ [(number, node)]
    | none => found

/-- The anchored nodes of some items. -/
def targetsOfItems (items : List Node) (found : Targets) : Targets :=
  match items with
  | [] => found
  | item :: rest => targetsOfItems rest (targets item found)

/-- The anchored nodes of some entries. -/
def targetsOfEntries (entries : List (Node × Node)) (found : Targets) : Targets :=
  match entries with
  | [] => found
  | (key, value) :: rest => targetsOfEntries rest (targets value (targets key found))
end

/-- Nothing can be read here. -/
def Node.isTorn : Node → Bool
  | .torn => true
  | _ => false

/-- The collection has no end, because the text cannot be read up to there. -/
def Node.isOpen : Node → Bool
  | .sequence _ items => items.getLast?.any Node.isTorn
  | .mapping _ entries => entries.getLast?.any fun entry => entry.1.isTorn || entry.2.isTorn
  | _ => false

mutual
/-- The size of a tree: a collection counts for its start and, unless it is open, for its end. -/
def Node.size (node : Node) : Nat :=
  match node with
  | .alias _ | .scalar .. => 1
  | .sequence _ items => Node.sizeOfItems items + (if node.isOpen then 1 else 2)
  | .mapping _ entries => Node.sizeOfEntries entries + (if node.isOpen then 1 else 2)
  | .torn => 0

/-- The size of some items. -/
def Node.sizeOfItems : List Node → Nat
  | [] => 0
  | item :: rest => Node.size item + Node.sizeOfItems rest

/-- The size of some entries. -/
def Node.sizeOfEntries : List (Node × Node) → Nat
  | [] => 0
  | (key, value) :: rest => Node.size key + Node.size value + Node.sizeOfEntries rest
end

/-- A computation that can follow some more aliases. -/
abbrev Following := StateT Nat (Except ReadFault)

/-- The node itself, or what it refers to: the last node with the anchor. -/
def Node.follow (targets : Targets) (node : Node) : Following Node := do
  match node with
  | .alias number =>
    let left ← get
    if left == 0 then throw .repetition
    set (left - 1)
    match targets.reverse.find? fun entry => entry.1 == number with
    | some (_, target) => return target
    | none => throw .malformed
  | node => return node

end Remap.Yaml
