import Remap.Yaml.Content
import Remap.Yaml.Printer

/-!
# Reading documents

A document is read as one tree of nodes. What a reader makes of the tree comes first, and then
what is wrong behind it.
-/

namespace Remap.Yaml

/-- How deep collections may be nested in a document. -/
def depthLimit : Nat := 128

/-- How often aliases may be followed, for each node. -/
def followLimit : Nat := 100

/-- What a reader makes of a tree of nodes. -/
def readTree {β : Type} (reader : Reader β) (node : Node) : Except ReadFault β := do
  let reading := reader.read (Site.form (targets node [])) ⟨node, depthLimit⟩
  let (b, _) ← reading.run (followLimit * node.size)
  return b

/-- What a reader makes of a text. What is wrong in its document comes before what is wrong behind
it. -/
def readText {β : Type} (reader : Reader β) (text : String) : Except ReadFault β := do
  let (node, fault?) := firstDocument text
  let b ← readTree reader node
  match fault? with
  | none => .ok b
  | some fault => .error fault

/-- The engine of this library. -/
instance standard : Engine where
  print := print
  read := readText

end Remap.Yaml
