import Remap.Mapping.Coercion
import Remap.Mapping.Pass
import Remap.Mapping.View

/-!
# Mappers

A mapper holds entries and the settings of its passes. A pass runs the entries in order and then
copies by name each source field that nothing else takes care of, if the target can take it.
What a pass with failures means for the caller is for the policy to decide.

Entries are checked when they are added. One that equals an earlier entry is left out.
-/

namespace Remap

/-- What failures mean for the verdict on a pass. -/
inductive FailurePolicy
  /-- Any failure fails the pass. -/
  | raise
  /-- Only a failure of the highest severity fails the pass. -/
  | raiseOnErrors
  /-- No failure fails the pass. -/
  | collect
  deriving DecidableEq, Repr, Inhabited

/-- A pass with these results has failed. -/
def FailurePolicy.rejects (results : List MappingResult) : FailurePolicy → Bool
  | .raise => results.any (·.isFailure)
  | .raiseOnErrors => results.any (·.isError)
  | .collect => false

/-- Entries, and the settings for the passes that run them. -/
structure FieldMapper where
  entries : List Entry := []
  /-- Fields that nothing takes care of are copied by name. -/
  autoMapping : Bool := true
  /-- Source fields that are never copied by name. -/
  excluded : List String := []
  viewOf : Value → View := View.ofValue
  conversions : ConversionRegistry Scoped := .standard
  types : TypeRegistry := .empty
  policy : FailurePolicy := .raise
  /-- The names of the record types that it maps from and to, if it was made for two. -/
  recordTypes : Option (String × String) := none

namespace FieldMapper

/-- A mapper between two named record types. -/
def between (source target : String) : FieldMapper := { recordTypes := some (source, target) }

/-! ## Settings -/

/-- The mapper with an entry, or as it was if it has an equal one. -/
def addEntry (m : FieldMapper) (e : Entry) : FieldMapper :=
  if m.entries.any (·.same e) then m else { m with entries := m.entries ++ [e] }

variable [Regex.Engine]

/-- The expression for a source. -/
def readSource (text : String) : Except MappingError Expression :=
  (Expression.parse text).mapError (.configuration .source text)

/-- The path for a target. -/
def readTarget (text : String) : Except MappingError Path :=
  (Path.parse text).mapError (.configuration .target text)

/-- The expression for a guard, if there is one. -/
def readCondition : Option String → Except MappingError (Option Expression)
  | none => .ok none
  | some text =>
    match Expression.parse text with
    | .ok e => .ok (some e)
    | .error cause => .error (.configuration .condition text cause)

/-- The expressions for several sources, the first fault counting. -/
def readSources : List String → Except MappingError (List Expression)
  | [] => .ok []
  | text :: rest => do
    let e ← readSource text
    let es ← readSources rest
    return e :: es

/-- One source value to one place of the target. -/
def addField (m : FieldMapper) (source target : String) (converter : Option Converter)
    (condition : Option String) : Except MappingError FieldMapper := do
  let s ← readSource source
  let t ← readTarget target
  let c ← readCondition condition
  return m.addEntry ⟨.field s t converter, c⟩

/-- One source value onto the whole target by a nested mapper. -/
def addFanOut (m : FieldMapper) (source : String) (mapper : NestedMapper)
    (condition : Option String) : Except MappingError FieldMapper := do
  let s ← readSource source
  let c ← readCondition condition
  return m.addEntry ⟨.fanOut s mapper, c⟩

/-- The whole source onto the whole target by a nested mapper that takes care of the listed
fields. -/
def addWhole (m : FieldMapper) (claimed : List String) (mapper : NestedMapper)
    (condition : Option String) : Except MappingError FieldMapper := do
  let c ← readCondition condition
  return m.addEntry ⟨.whole claimed mapper, c⟩

/-- Several source values to one place of the target by an assembler. -/
def addAssembled (m : FieldMapper) (sources : List String) (target : String)
    (assembler : Converter) (condition : Option String) : Except MappingError FieldMapper := do
  let ss ← readSources sources
  let t ← readTarget target
  let c ← readCondition condition
  return m.addEntry ⟨.assembled (.fields ss) t assembler, c⟩

/-- The fields of a group to one place of the target by an assembler. -/
def addGroup (m : FieldMapper) (stem target : String) (assembler : Converter)
    (condition : Option String) : Except MappingError FieldMapper := do
  if stem.isEmpty then
    throw (.invalidConfiguration "The nested field prefix cannot be empty")
  let t ← readTarget target
  let c ← readCondition condition
  return m.addEntry ⟨.assembled (.group stem) t assembler, c⟩

/-- The mapper with a converter between two kinds. -/
def addConverter (m : FieldMapper) (source target : TypeKey) (c : Converter) : FieldMapper :=
  { m with conversions := m.conversions.add source target (Standard.plain c.apply) }

/-! ## Passes -/

/-- The kinds that the mapper maps from and to, if it was made for two. -/
def keys? (m : FieldMapper) : Option (TypeKey × TypeKey) :=
  m.recordTypes.map fun (source, target) => (.record (some source), .record (some target))

/-- A source bound to the source type of the mapper, if that is registered. -/
def bindSource (m : FieldMapper) (source : Value) : Except MappingError Value :=
  match m.recordTypes with
  | some (name, _) =>
    if m.types.contains name then (m.types.instantiate name source).mapError .model
    else .ok source
  | none => .ok source

/-- An empty target of the target type of the mapper. -/
def newTarget (m : FieldMapper) : Value :=
  match m.recordTypes with
  | some (_, name) => m.types.emptyFor (.record name)
  | none => .emptyRecord

/-- How the mapper fits values to their place. -/
def coercer (m : FieldMapper) : Coercer Scoped := .ofRegistries m.conversions m.types

/-- The surroundings of the entries for a source. -/
def passOver (m : FieldMapper) (source : Value) : Pass :=
  ⟨source, (m.viewOf source).fieldNames source, m.coercer⟩

/-- The field is left to be copied by name. -/
def leaves (m : FieldMapper) (name : String) : Bool :=
  !m.excluded.contains name && !m.entries.any (·.claims name)

/-- The entries that copy by name: one for each field of the source that is left and that the
target can take, as seen by a view of the target. -/
def copies (m : FieldMapper) (names : List String) (view : View) (target : Value) : List Entry :=
  if m.autoMapping then
    (names.filter fun name => m.leaves name && canTake name).map Entry.copy
  else []
where
  /-- A field of this name can be written. -/
  canTake (name : String) : Bool :=
    match view.isWritable target (.ofProperty name) m.coercer.instantiate with
    | .ok writable => writable
    | .error _ => false

/-- The entries that copy by name for a source and a target as it stands. -/
def autoEntries (m : FieldMapper) (source target : Value) : List Entry :=
  m.copies ((m.viewOf source).fieldNames source) (m.viewOf target) target

/-- The results of a pass and the target after it. -/
def run (m : FieldMapper) (source target : Value) : Scoped (List MappingResult × Value) :=
  Scoped.within source.key.text do
    let pass := m.passOver source
    let (declared, next) ← pass.runEntries false m.entries target
    let found := m.copies pass.fieldNames (m.viewOf target) next
    let (copied, last) ← pass.runEntries true found next
    return (declared ++ copied, last)

/-- The argument that is null, the source before the target. -/
def missing? (source target : Value) : Option Role :=
  if source.isNull then some .source
  else if target.isNull then some .target
  else none

/-- The results of a pass and the target after it, whatever the policy. -/
def mapWithResults (m : FieldMapper) (source target : Value) :
    Scoped (Except MappingError (List MappingResult × Value)) :=
  match missing? source target with
  | some role => pure (.error (.missingArgument role))
  | none => do
    let outcome ← m.run source target
    return .ok outcome

/-- The verdict on a pass and the target after it. -/
def mapInto (m : FieldMapper) (source target : Value) :
    Scoped (Except MappingError Unit × Value) :=
  match missing? source target with
  | some role => pure (.error (.missingArgument role), target)
  | none => do
    let (results, after) ← m.run source target
    return (if m.policy.rejects results then .error (.failures results) else .ok (), after)

/-- The target after a pass, unless the policy rejects the pass. -/
def map (m : FieldMapper) (source target : Value) : Scoped (Except MappingError Value) := do
  let (verdict, after) ← m.mapInto source target
  return verdict.map fun () => after

/-! ## Mappers inside mappers -/

/-- The mapper as a part of another one. -/
def nested (m : FieldMapper) (tag : Nat) : NestedMapper := ⟨tag, m.keys?, m.mapInto⟩

/-- The mapper with a nested mapper for values of one kind that go to places declared as a record
type. `targetFor` makes the target that the nested mapper starts from. -/
def addNestedBetween (m : FieldMapper) (source target : TypeKey) (mapper : NestedMapper)
    (targetFor : Value → FieldType → Value) : Except MappingError FieldMapper :=
  match target with
  | .record _ =>
    .ok { m with conversions := m.conversions.add source target (mapper.toConverter targetFor) }
  | other =>
    .error (.invalidConfiguration ("Nested mappers must produce records, not " ++ other.text))

/-- The mapper with a nested mapper for the kinds that it knows to map between. -/
def addNested (m : FieldMapper) (mapper : NestedMapper) (targetFor : Value → FieldType → Value) :
    Except MappingError FieldMapper :=
  match mapper.keys? with
  | some (source, target) => m.addNestedBetween source target mapper targetFor
  | none =>
    .error (.invalidConfiguration
      "Unable to determine the source and target types of the nested mapper")

end FieldMapper

end Remap
