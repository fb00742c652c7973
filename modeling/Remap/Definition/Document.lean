import Remap.Definition.Decode
import Remap.Yaml.Engine

/-!
# Definitions as documents

A definition is written as a document of one table and read from one. Outside the rules, scalars
are read for what is wanted; a rule is read as data.
-/

namespace Remap.Definition

/-- The rules of a part. -/
def readRules {m : Type → Type} [Monad m] {α : Type} (f : TaggedForm m α) (a : α) :
    m (Definition → Definition) := do
  let rules ← f.list (fun a => do
    let d ← f.tagged "type" ruleWords a
    match decodeRule false d with
    | some rule => return rule
    | none => f.malformed) a
  return fun d => { d with rules }

/-- Reads definitions. -/
def reader : Yaml.Reader Definition where
  read f := read f.toForm (readRules f)

variable [Yaml.Engine]

/-- Reads a document of one definition. -/
def ofDocument (text : String) : Except Yaml.ReadFault Definition := Yaml.Engine.read reader text

/-- The document of a definition. -/
def document (d : Definition) : String := Yaml.Engine.print d.encode

end Remap.Definition
