import Remap.Definition.Basic

/-!
# Building mappers

The mapper that a definition describes. All definitions of a tree share one registry of types, in
which the types of inner definitions come after those of outer ones. A definition inside a rule
becomes a nested mapper whose tag is the position of the rule, so no two rules have the same one.
-/

namespace Remap

/-- The type of a declared field. -/
def FieldDefinition.fieldType (typeName : String) (f : FieldDefinition) :
    Except MappingError FieldType :=
  match f.kind with
  | .any => .ok .any
  | .boolean => .ok .boolean
  | .integer => .ok .integer
  | .decimal => .ok .decimal
  | .string => .ok .string
  | .list => .ok .list
  | .record =>
    match f.of with
    | some name => .ok (.record name)
    | none =>
      .error (.invalidConfiguration ("Field '" ++ typeName ++ "." ++ f.name ++
        "' is a record but does not name its type with 'of'"))

namespace TypeDefinition

/-- The declared fields one after the other. -/
def describeFields (typeName : String) (d : TypeDescriptor) :
    List FieldDefinition → Except MappingError TypeDescriptor
  | [] => .ok d
  | f :: rest => do
    let type ← f.fieldType typeName
    describeFields typeName (d.declare ⟨f.name, type, f.writable⟩) rest

/-- The descriptor of a declared record type. -/
def describe (t : TypeDefinition) : Except MappingError TypeDescriptor :=
  describeFields t.name ⟨t.name, []⟩ t.fields

/-- A registry with declared types. -/
def registerAll (types : TypeRegistry) : List TypeDefinition → Except MappingError TypeRegistry
  | [] => .ok types
  | t :: rest => do
    let d ← t.describe
    registerAll (types.register d) rest

end TypeDefinition

namespace Definition

mutual
/-- A registry with the types of a definition and of all definitions inside it. -/
def registerTypes (types : TypeRegistry) : Definition → Except MappingError TypeRegistry
  | ⟨_, _, _, _, _, _, declared, rules⟩ => do
    let types ← TypeDefinition.registerAll types declared
    registerRules types rules

/-- A registry with the types of the definitions inside rules. -/
def registerRules (types : TypeRegistry) :
    List (RuleOf Definition) → Except MappingError TypeRegistry
  | [] => .ok types
  | r :: rest => do
    let types ← registerRule types r
    registerRules types rest

/-- A registry with the types of the definition inside a rule. -/
def registerRule (types : TypeRegistry) : RuleOf Definition → Except MappingError TypeRegistry
  | .fanOut _ mapping _ => registerTypes types mapping
  | .multiSource _ mapping _ => registerTypes types mapping
  | .nested mapping => registerTypes types mapping
  | .field .. => .ok types
  | .assemble .. => .ok types
  | .nestedFields .. => .ok types
end

/-- The types that the definition and all definitions inside it declare. -/
def typeRegistry (d : Definition) : Except MappingError TypeRegistry := registerTypes .empty d

/-- The mapper without rules. -/
def frame (types : TypeRegistry) (d : Definition) : FieldMapper where
  autoMapping := d.autoMapping
  excluded := d.excluded
  types := types
  policy := d.policy
  recordTypes :=
    match d.sourceType, d.targetType with
    | some source, some target => some (source, target)
    | _, _ => none

/-- A definition that converts records has to say between which types. -/
def checkTyped (d : Definition) : Except MappingError Unit :=
  if d.sourceType.isNone || d.targetType.isNone then
    .error (.invalidConfiguration
      ("Nested mapping '" ++ d.name ++ "' must declare source_type and target_type"))
  else .ok ()

variable [Regex.Engine]

mutual
/-- The mapper of a definition over a registry of types. -/
def buildWith (types : TypeRegistry) : Definition → Except MappingError FieldMapper
  | ⟨name, sourceType, targetType, autoMapping, policy, excluded, declared, rules⟩ =>
    addRules types
      (frame types ⟨name, sourceType, targetType, autoMapping, policy, excluded, declared, []⟩)
      0 rules

/-- A mapper with rules; the first of them stands at a position. -/
def addRules (types : TypeRegistry) (m : FieldMapper) (position : Nat) :
    List (RuleOf Definition) → Except MappingError FieldMapper
  | [] => .ok m
  | r :: rest => do
    let m ← addRule types m position r
    addRules types m (position + 1) rest

/-- A mapper with the rule at a position. -/
def addRule (types : TypeRegistry) (m : FieldMapper) (position : Nat) :
    RuleOf Definition → Except MappingError FieldMapper
  | .field source target transform condition =>
    m.addField source target (transform.map .transform) condition
  | .fanOut source mapping condition => do
    let inner ← buildWith types mapping
    m.addFanOut source (inner.nested position) condition
  | .multiSource sources mapping condition => do
    let inner ← buildWith types mapping
    m.addWhole sources (inner.nested position) condition
  | .assemble sources target assembler condition =>
    m.addAssembled sources target (.transform assembler) condition
  | .nestedFields stem target assembler condition =>
    m.addGroup stem target (.transform assembler) condition
  | .nested mapping => do
    checkTyped mapping
    let inner ← buildWith types mapping
    m.addNested (inner.nested position) fun _ t => types.emptyFor t
end

/-- The mapper that the definition describes. -/
def build (d : Definition) : Except MappingError FieldMapper := do
  let types ← d.typeRegistry
  buildWith types d

end Definition

end Remap
