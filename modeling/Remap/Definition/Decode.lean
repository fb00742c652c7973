import Remap.Definition.Encode

/-!
# Reading definitions

The definition that a data tree stands for. Fields that are left out have their usual value,
unknown fields are passed over, a field that is there twice is a fault. Tables can be given as
lists of their fields in order.

What stands outside the rules is read through a `Form`, because text forms differ in how they
show scalars there. What stands inside rules is always read from a data tree.
-/

namespace Remap

section Parts

variable {m : Type → Type} [Monad m] {α : Type} (f : Form m α)

/-- The fields of the declaration of a field. -/
def FieldDefinition.parts : List (Form.Part m α FieldDefinition) :=
  [("name", fun a => do let name ← f.text a; return fun d => { d with name }),
    ("type", fun a => do let kind ← f.oneOf FieldKind.choices a; return fun d => { d with kind }),
    ("of", fun a => do let of ← f.optionalText a; return fun d => { d with of }),
    ("writable", fun a => do let writable ← f.flag a; return fun d => { d with writable })]

/-- A declared field; it has to have a name. -/
def FieldDefinition.read (a : α) : m FieldDefinition := do
  match ← f.fields (FieldDefinition.parts f) a with
  | some name :: rest => return Form.changed { name := "" } (some name :: rest)
  | _ => f.malformed

/-- The fields of the declaration of a record type. -/
def TypeDefinition.parts : List (Form.Part m α TypeDefinition) :=
  [("name", fun a => do let name ← f.text a; return fun d => { d with name }),
    ("fields", fun a => do
      let fields ← f.list (FieldDefinition.read f) a
      return fun d => { d with fields })]

/-- A declared record type; it has to have a name. -/
def TypeDefinition.read (a : α) : m TypeDefinition := do
  match ← f.fields (TypeDefinition.parts f) a with
  | some name :: rest => return Form.changed { name := "" } (some name :: rest)
  | _ => f.malformed

/-- The fields of a definition; `rules` reads the rules. -/
def Definition.parts (rules : α → m (Definition → Definition)) :
    List (Form.Part m α Definition) :=
  [("name", fun a => do let name ← f.text a; return fun d => { d with name }),
    ("source_type", fun a => do
      let sourceType ← f.optionalText a
      return fun d => { d with sourceType }),
    ("target_type", fun a => do
      let targetType ← f.optionalText a
      return fun d => { d with targetType }),
    ("auto_mapping", fun a => do
      let autoMapping ← f.flag a
      return fun d => { d with autoMapping }),
    ("failure_policy", fun a => do
      let policy ← f.oneOf FailurePolicy.choices a
      return fun d => { d with policy }),
    ("excluded_fields", fun a => do
      let excluded ← f.list f.text a
      return fun d => { d with excluded }),
    ("types", fun a => do
      let types ← f.list (TypeDefinition.read f) a
      return fun d => { d with types }),
    ("rules", rules)]

/-- A definition. -/
def Definition.read (rules : α → m (Definition → Definition)) (a : α) : m Definition := do
  return Form.changed {} (← f.fields (Definition.parts f rules) a)

end Parts

namespace Definition

/-- The words for the rules. -/
def ruleWords : List String :=
  ["field", "fan_out", "multi_source", "assemble", "nested_fields", "nested"]

/-- A transform that may be missing or null. -/
def optionalTransform : Option Datum → Option (Option Transform)
  | none => some none
  | some .null => some none
  | some d => (Transform.decode true d).map some

/-- A list of texts. -/
def texts (d : Datum) : Option (List String) := do
  let items ← d.items?
  items.mapM Datum.text?

/-- The names of the fields of a rule. -/
def ruleFields : Nat → List String
  | 0 => ["source", "target", "transform", "when"]
  | 1 => ["source", "mapping", "when"]
  | 2 => ["sources", "mapping", "when"]
  | 3 => ["sources", "target", "assembler", "when"]
  | 4 => ["prefix", "target", "assembler", "when"]
  | _ => ["mapping"]

/-- The position of the mapping among the fields of a rule that has one. -/
def mappingPosition : Nat → Option Nat
  | 1 => some 1
  | 2 => some 1
  | 5 => some 0
  | _ => none

/-- The rule of a word. `mapping` is the definition that the rule holds, if it has to hold one. -/
def readRule (word : Nat) (slots : List (Option Datum)) (mapping : Option Definition) :
    Option Rule :=
  match word, slots, mapping with
  | 0, [some source, some target, transform, condition], _ => do
    let source ← source.text?
    let target ← target.text?
    let transform ← optionalTransform transform
    let condition ← Transform.optionalText condition
    return .field source target transform condition
  | 1, [some source, _, condition], some mapping => do
    let source ← source.text?
    let condition ← Transform.optionalText condition
    return .fanOut source mapping condition
  | 2, [some sources, _, condition], some mapping => do
    let sources ← texts sources
    let condition ← Transform.optionalText condition
    return .multiSource sources mapping condition
  | 3, [some sources, some target, some assembler, condition], _ => do
    let sources ← texts sources
    let target ← target.text?
    let assembler ← Transform.decode true assembler
    let condition ← Transform.optionalText condition
    return .assemble sources target assembler condition
  | 4, [some stem, some target, some assembler, condition], _ => do
    let stem ← stem.text?
    let target ← target.text?
    let assembler ← Transform.decode true assembler
    let condition ← Transform.optionalText condition
    return .nestedFields stem target assembler condition
  | 5, [_], some mapping => some (.nested mapping)
  | _, _, _ => none

/-- The position of the rules among the fields of a definition. -/
def rulesPosition : Nat := 7

mutual
/-- The definition that data stand for. The lenient form is that of definitions inside rules. -/
def decode (lenient : Bool) : Datum → Option Definition
  | .table entries => do
    let d ← read (Datum.form lenient) (fun _ => some id) (.table entries)
    let rules ← decodeRulesNamed lenient entries
    return { d with rules }
  | .list items => do
    let d ← read (Datum.form lenient) (fun _ => some id) (.list items)
    let rules ← decodeRulesAt lenient rulesPosition items
    return { d with rules }
  | _ => none

/-- The rules in a table. -/
def decodeRulesNamed (lenient : Bool) : List (Key × Datum) → Option (List Rule)
  | [] => some []
  | (key, d) :: rest =>
    if key.stands "rules" rulesPosition then decodeRules lenient d
    else decodeRulesNamed lenient rest

/-- The rules at a position of a list. -/
def decodeRulesAt (lenient : Bool) : Nat → List Datum → Option (List Rule)
  | _, [] => some []
  | 0, d :: _ => decodeRules lenient d
  | n + 1, _ :: rest => decodeRulesAt lenient n rest

/-- The rules of a list. -/
def decodeRules (lenient : Bool) : Datum → Option (List Rule)
  | .list items => decodeRuleItems lenient items
  | _ => none

/-- Rules one after the other. -/
def decodeRuleItems (lenient : Bool) : List Datum → Option (List Rule)
  | [] => some []
  | d :: rest => do
    let r ← decodeRule lenient d
    let rs ← decodeRuleItems lenient rest
    return r :: rs

/-- The rule that data stand for. -/
def decodeRule (lenient : Bool) : Datum → Option Rule
  | .table entries => do
    let tag ← Datum.single? "type" entries
    let word ← tag.tagChoice? lenient ruleWords
    let slots ← (Datum.table (Datum.without "type" entries)).slots? (ruleFields word)
    match mappingPosition word with
    | none => readRule word slots none
    | some position => readRule word slots (decodeMappingNamed position entries)
  | .list (tag :: items) => do
    let word ← tag.tagChoice? lenient ruleWords
    let slots ← (Datum.list items).slots? (ruleFields word)
    match mappingPosition word with
    | none => readRule word slots none
    | some position => readRule word slots (decodeMappingAt position items)
  | _ => none

/-- The definition inside a rule that is a table. -/
def decodeMappingNamed (position : Nat) : List (Key × Datum) → Option Definition
  | [] => none
  | (key, d) :: rest =>
    if key.stands "mapping" position then decode true d else decodeMappingNamed position rest

/-- The definition inside a rule that is a list. -/
def decodeMappingAt : (position : Nat) → List Datum → Option Definition
  | _, [] => none
  | 0, d :: _ => decode true d
  | n + 1, _ :: rest => decodeMappingAt n rest
end

end Definition

end Remap
