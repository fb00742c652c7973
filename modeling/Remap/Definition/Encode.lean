import Remap.Definition.Basic
import Remap.Definition.Transform

/-!
# Definitions as data

A definition is a table. Settings that have their usual value are left out, but for the name, the
policy and the rules. A rule is a table whose entry `type` says which one it is.
-/

namespace Remap

/-- The words for the kinds of fields. -/
def FieldKind.choices : List (String × FieldKind) :=
  [("any", .any), ("boolean", .boolean), ("integer", .integer), ("decimal", .decimal),
    ("string", .string), ("list", .list), ("record", .record)]

/-- The word for a kind of field. -/
def FieldKind.word : FieldKind → String
  | .any => "any"
  | .boolean => "boolean"
  | .integer => "integer"
  | .decimal => "decimal"
  | .string => "string"
  | .list => "list"
  | .record => "record"

/-- The words for the policies. -/
def FailurePolicy.choices : List (String × FailurePolicy) :=
  [("raise", .raise), ("raise_on_errors", .raiseOnErrors), ("collect", .collect)]

/-- The word for a policy. -/
def FailurePolicy.word : FailurePolicy → String
  | .raise => "raise"
  | .raiseOnErrors => "raise_on_errors"
  | .collect => "collect"

namespace Datum

/-- A table from names and contents, without those that are left out. -/
def tableOf (entries : List (List (String × Datum))) : Datum :=
  .table (entries.flatten.map fun (name, d) => (Key.name name, d))

/-- An entry that is always there. -/
def entry (name : String) (d : Datum) : List (String × Datum) := [(name, d)]

/-- An entry for a text, left out when there is none. -/
def textEntry? (name : String) : Option String → List (String × Datum)
  | none => []
  | some s => [(name, .text s)]

/-- A list of texts. -/
def ofTexts (texts : List String) : Datum := .list (texts.map .text)

/-- An entry for a list, left out when it is empty. -/
def listEntry? (name : String) : List Datum → List (String × Datum)
  | [] => []
  | items => [(name, .list items)]

/-- An entry for a truth value that is usually true, left out then. -/
def flagEntry? (name : String) (b : Bool) : List (String × Datum) :=
  if b then [] else [(name, .boolean false)]

end Datum

/-- A declared field as data. -/
def FieldDefinition.encode (f : FieldDefinition) : Datum :=
  .tableOf [Datum.entry "name" (.text f.name), Datum.entry "type" (.text f.kind.word),
    Datum.textEntry? "of" f.of, Datum.flagEntry? "writable" f.writable]

/-- A declared record type as data. -/
def TypeDefinition.encode (t : TypeDefinition) : Datum :=
  .tableOf [Datum.entry "name" (.text t.name),
    Datum.entry "fields" (.list (t.fields.map (·.encode)))]

/-- A transform of a rule, left out when there is none. -/
def Transform.entry? (name : String) : Option Transform → List (String × Datum)
  | none => []
  | some t => [(name, t.encode)]

namespace Definition

mutual
/-- A definition as data. -/
def encode : Definition → Datum
  | ⟨name, sourceType, targetType, autoMapping, policy, excluded, types, rules⟩ =>
    .tableOf [Datum.entry "name" (.text name), Datum.textEntry? "source_type" sourceType,
      Datum.textEntry? "target_type" targetType, Datum.flagEntry? "auto_mapping" autoMapping,
      Datum.entry "failure_policy" (.text policy.word),
      Datum.listEntry? "excluded_fields" (excluded.map .text),
      Datum.listEntry? "types" (types.map (·.encode)),
      Datum.entry "rules" (.list (encodeRules rules))]

/-- Rules as data. -/
def encodeRules : List (RuleOf Definition) → List Datum
  | [] => []
  | r :: rest => encodeRule r :: encodeRules rest

/-- A rule as data. -/
def encodeRule : RuleOf Definition → Datum
  | .field source target transform condition =>
    .tableOf [Datum.entry "type" (.text "field"), Datum.entry "source" (.text source),
      Datum.entry "target" (.text target), Transform.entry? "transform" transform,
      Datum.textEntry? "when" condition]
  | .fanOut source mapping condition =>
    .tableOf [Datum.entry "type" (.text "fan_out"), Datum.entry "source" (.text source),
      Datum.entry "mapping" (encode mapping), Datum.textEntry? "when" condition]
  | .multiSource sources mapping condition =>
    .tableOf [Datum.entry "type" (.text "multi_source"),
      Datum.entry "sources" (Datum.ofTexts sources),
      Datum.entry "mapping" (encode mapping), Datum.textEntry? "when" condition]
  | .assemble sources target assembler condition =>
    .tableOf [Datum.entry "type" (.text "assemble"),
      Datum.entry "sources" (Datum.ofTexts sources),
      Datum.entry "target" (.text target), Datum.entry "assembler" assembler.encode,
      Datum.textEntry? "when" condition]
  | .nestedFields stem target assembler condition =>
    .tableOf [Datum.entry "type" (.text "nested_fields"), Datum.entry "prefix" (.text stem),
      Datum.entry "target" (.text target), Datum.entry "assembler" assembler.encode,
      Datum.textEntry? "when" condition]
  | .nested mapping =>
    .tableOf [Datum.entry "type" (.text "nested"), Datum.entry "mapping" (encode mapping)]
end

end Definition

end Remap
