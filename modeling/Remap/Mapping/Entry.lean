import Remap.Convert.Transform
import Remap.Mapping.Nested
import Remap.Path.Basic

/-!
# Entries

An entry is one declared correspondence between a source and a target: what it reads, what it
does with the value, where the result goes, and the guard under which it applies at all.

An entry claims source fields, which are then not mapped by name. `Entry.claims` says which: the
field that a plain source expression reads, the fields listed for a nested mapper, the fields of
a group.
-/

namespace Remap

/-- A conversion that an entry runs on its value. -/
inductive Converter
  | transform (t : Transform)
  /-- Any other function. The tag tells two of them apart. -/
  | custom (tag : Nat) (run : Value → Except ConversionError Value)

namespace Converter

/-- The result of a conversion. -/
def apply : Converter → Value → Except ConversionError Value
  | .transform t, v => t.apply v
  | .custom _ run, v => run v

/-- Interchangeable: equal transforms, or the same other function. -/
def same : Converter → Converter → Bool
  | .transform s, .transform t => s.same t
  | .custom m _, .custom n _ => m == n
  | _, _ => false

/-- Interchangeable, or both missing. -/
def same? : Option Converter → Option Converter → Bool
  | none, none => true
  | some a, some b => a.same b
  | _, _ => false

end Converter

/-- What an assembly gathers. -/
inductive Assembly
  /-- The values of expressions, under their texts. -/
  | fields (sources : List Expression)
  /-- The source fields whose name is the stem, a full stop and a suffix, under their suffix. -/
  | group (stem : String)

namespace Assembly

/-- What follows the stem and a full stop in a name. -/
def suffixChars? : (stem name : List Char) → Option (List Char)
  | [], '.' :: rest => some rest
  | [], _ => none
  | s :: stem, c :: rest => if s = c then suffixChars? stem rest else none
  | _ :: _, [] => none

/-- The suffix of a field name of the group. -/
def suffix? (stem name : String) : Option String :=
  (suffixChars? stem.toList name.toList).map String.ofList

/-- Equality of assemblies: expressions are compared by their texts. -/
def same : Assembly → Assembly → Bool
  | .fields as, .fields bs => as.map (·.text) == bs.map (·.text)
  | .group a, .group b => a == b
  | _, _ => false

end Assembly

/-- What an entry does. -/
inductive Action
  /-- One source value goes to one place of the target, through a converter if there is one. -/
  | field (source : Expression) (target : Path) (converter : Option Converter)
  /-- One source value is mapped onto the whole target. -/
  | fanOut (source : Expression) (mapper : NestedMapper)
  /-- The whole source is mapped onto the whole target; the listed fields count as mapped. -/
  | whole (claimed : List String) (mapper : NestedMapper)
  /-- Several source values are assembled into one value for one place of the target. -/
  | assembled (sources : Assembly) (target : Path) (assembler : Converter)

/-- A declared correspondence: an action and its guard. -/
structure Entry where
  action : Action
  condition : Option Expression := none

/-- The expression stands for the field: by its text, or as a plain property. -/
def Expression.claims (e : Expression) (name : String) : Bool :=
  e.text == name || e.rootProperty? == some name

namespace Action

/-- The source field is taken care of by the action. -/
def claims (name : String) : Action → Bool
  | .field source _ _ => source.claims name
  | .fanOut source _ => source.claims name
  | .whole claimed _ => claimed.contains name
  | .assembled (.fields sources) _ _ => sources.any (·.claims name)
  | .assembled (.group stem) _ _ => (Assembly.suffix? stem name).isSome

/-- The label of the source side. -/
def sourceLabel : Action → String
  | .field source _ _ => source.text
  | .fanOut source _ => source.text
  | .whole claimed _ => ",".intercalate claimed
  | .assembled (.fields sources) _ _ => ",".intercalate (sources.map (·.text))
  | .assembled (.group stem) _ _ => stem ++ ".*"

/-- The label of the target side; a star when a nested mapper writes the target. -/
def targetLabel : Action → String
  | .field _ target _ => target.text
  | .assembled _ target _ => target.text
  | .fanOut _ _ => "*"
  | .whole _ _ => "*"

/-- The word for the kind of an action. -/
def kind : Action → String
  | .field .. => "FieldToField"
  | .fanOut .. => "FieldToMultiField"
  | .whole .. => "Flexible"
  | .assembled .. => "Assembled"

/-- Two actions that do the same to the same fields. Nested mappers are compared by their tags. -/
def same : Action → Action → Bool
  | .field s t c, .field s' t' c' => s.same s' && t == t' && Converter.same? c c'
  | .fanOut s m, .fanOut s' m' => s.same s' && m.tag == m'.tag
  | .whole names m, .whole names' m' => names == names' && m.tag == m'.tag
  | .assembled s t a, .assembled s' t' a' => s.same s' && t == t' && a.same a'
  | _, _ => false

end Action

namespace Entry

/-- The source field is taken care of by the entry. -/
def claims (e : Entry) (name : String) : Bool := e.action.claims name

/-- The label of the source side. -/
def sourceLabel (e : Entry) : String := e.action.sourceLabel

/-- The label of the target side. -/
def targetLabel (e : Entry) : String := e.action.targetLabel

/-- Two guards with the same text, or both missing. -/
def sameCondition : Option Expression → Option Expression → Bool
  | none, none => true
  | some a, some b => a.same b
  | _, _ => false

/-- Two entries that do the same under the same guard. -/
def same (a b : Entry) : Bool := a.action.same b.action && sameCondition a.condition b.condition

/-- The text of an entry: its labels, and its guard if it has one. -/
def text (e : Entry) : String :=
  e.sourceLabel ++ " -> " ++ e.targetLabel ++
    (match e.condition with
    | some guard => " [if " ++ guard.text ++ "]"
    | none => "")

/-- The entry that copies a field to the field of the same name. -/
def copy (name : String) : Entry :=
  ⟨.field (.ofProperty name) (.ofProperty name) none, none⟩

end Entry

end Remap
