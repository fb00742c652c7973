import Mathlib.Tactic.MkIffOfInductiveProp
import Remap.Proofs.Definition.Induction

/-!
# Which definitions build

What a definition has to meet to be built, said of the definition and of all definitions inside it,
at any depth, without building anything.

Main statement: the types of a definition can be registered, and its mapper built, exactly if it is
valid.
-/

namespace Remap

namespace RuleOf

variable {δ : Type}

/-- The texts of a rule that stand for source values. The names that a rule for the whole source
lists are no such texts. -/
def sources : RuleOf δ → List String
  | .field source _ _ _ => [source]
  | .fanOut source _ _ => [source]
  | .assemble sources _ _ _ => sources
  | .multiSource .. => []
  | .nestedFields .. => []
  | .nested _ => []

/-- The text of a rule that stands for a place of the target. -/
def target? : RuleOf δ → Option String
  | .field _ target _ _ => some target
  | .assemble _ target _ _ => some target
  | .nestedFields _ target _ _ => some target
  | .fanOut .. => none
  | .multiSource .. => none
  | .nested _ => none

/-- The stem of the fields that a rule gathers. -/
def stem? : RuleOf δ → Option String
  | .nestedFields stem _ _ _ => some stem
  | .field .. => none
  | .fanOut .. => none
  | .multiSource .. => none
  | .assemble .. => none
  | .nested _ => none

/-- What a rule by itself has to meet, apart from the definition inside it: its texts are
expressions and assignable paths, fields are gathered below a stem, and a definition that converts
records says between which types. -/
@[mk_iff]
structure Valid [Regex.Engine] (rule : Rule) : Prop where
  sources : ∀ text ∈ rule.sources, ∃ e, Expression.parse text = .ok e
  target : ∀ text ∈ rule.target?, ∃ path, Path.parse text = .ok path
  condition : ∀ text ∈ rule.condition?, ∃ e, Expression.parse text = .ok e
  stem : ∀ stem ∈ rule.stem?, stem ≠ ""
  typed : ∀ mapping, rule = .nested mapping →
    mapping.sourceType.isSome ∧ mapping.targetType.isSome

end RuleOf

/-- A field that is declared to be a record says of which type. -/
def FieldDefinition.Valid (f : FieldDefinition) : Prop := f.kind = .record → f.of.isSome

namespace Definition

/-- A definition and the definitions inside its rules, at any depth. -/
inductive Contains : Definition → Definition → Prop
  | self (d : Definition) : Contains d d
  | inside {d mapping e : Definition} {rule : Rule} (member : rule ∈ d.rules)
      (holds : rule.mapping? = some mapping) (deeper : Contains mapping e) : Contains d e

/-- A property holds of a definition and of all definitions inside it. -/
def Throughout (P : Definition → Prop) (d : Definition) : Prop := ∀ e, d.Contains e → P e

/-- The fields of the record types that a definition declares itself are valid. -/
def DeclaresValid (d : Definition) : Prop := ∀ t ∈ d.types, ∀ f ∈ t.fields, f.Valid

/-- The rules that a definition has itself are valid. -/
def RulesValid [Regex.Engine] (d : Definition) : Prop := ∀ rule ∈ d.rules, rule.Valid

/-- What a definition has to meet to be built. -/
@[mk_iff]
structure Valid [Regex.Engine] (d : Definition) : Prop where
  declarations : d.Throughout DeclaresValid
  rules : d.Throughout RulesValid

theorem throughout_iff {P : Definition → Prop} {d : Definition} :
    d.Throughout P ↔ P d ∧
      ∀ rule ∈ d.rules, ∀ mapping, rule.mapping? = some mapping → mapping.Throughout P := by
  constructor
  · intro all
    refine ⟨all d (.self d), ?_⟩
    intro rule member mapping holds e contains
    exact all e (.inside member holds contains)
  · rintro ⟨here, below⟩ e contains
    cases contains with
    | self => exact here
    | inside member holds deeper => exact below _ member _ holds e deeper

end Definition

/-! ## Registering types -/

theorem FieldDefinition.exists_fieldType_iff (typeName : String) (f : FieldDefinition) :
    (∃ type, f.fieldType typeName = .ok type) ↔ f.Valid := by
  unfold FieldDefinition.fieldType FieldDefinition.Valid
  cases f.kind with
  | record => cases f.of <;> simp
  | _ => simp

namespace TypeDefinition

theorem exists_describeFields_iff (typeName : String) (fields : List FieldDefinition)
    (d : TypeDescriptor) :
    (∃ d', describeFields typeName d fields = .ok d') ↔ ∀ f ∈ fields, f.Valid := by
  induction fields generalizing d with
  | nil => simp [describeFields]
  | cons f rest ih =>
    rw [describeFields, exists_bind_eq_ok_iff fun type _ => ih _, f.exists_fieldType_iff,
      List.forall_mem_cons]

theorem exists_registerAll_iff (declared : List TypeDefinition) (types : TypeRegistry) :
    (∃ types', registerAll types declared = .ok types') ↔
      ∀ t ∈ declared, ∀ f ∈ t.fields, f.Valid := by
  induction declared generalizing types with
  | nil => simp [registerAll]
  | cons t rest ih =>
    rw [registerAll, exists_bind_eq_ok_iff fun d _ => ih _, describe, exists_describeFields_iff,
      List.forall_mem_cons]

end TypeDefinition

namespace Definition

mutual

/-- The types of a definition can be registered if all fields of records, at any depth, say of which
type they are. -/
theorem exists_registerTypes_iff (types : TypeRegistry) :
    ∀ d : Definition, (∃ types', registerTypes types d = .ok types') ↔ d.Throughout DeclaresValid
  | ⟨_, _, _, _, _, _, declared, rules⟩ => by
    rw [registerTypes, exists_bind_eq_ok_iff fun types' _ => exists_registerRules_iff types' rules,
      TypeDefinition.exists_registerAll_iff, throughout_iff]
    rfl

theorem exists_registerRules_iff (types : TypeRegistry) :
    ∀ rules : List (RuleOf Definition), (∃ types', registerRules types rules = .ok types') ↔
      ∀ rule ∈ rules, ∀ mapping, rule.mapping? = some mapping → mapping.Throughout DeclaresValid
  | [] => by simp [registerRules]
  | rule :: rest => by
    rw [registerRules, exists_bind_eq_ok_iff fun types' _ => exists_registerRules_iff types' rest,
      exists_registerRule_iff types rule, List.forall_mem_cons]

theorem exists_registerRule_iff (types : TypeRegistry) :
    ∀ rule : RuleOf Definition, (∃ types', registerRule types rule = .ok types') ↔
      ∀ mapping, rule.mapping? = some mapping → mapping.Throughout DeclaresValid
  | .fanOut _ mapping _ => by
    simpa [registerRule, RuleOf.mapping?] using exists_registerTypes_iff types mapping
  | .multiSource _ mapping _ => by
    simpa [registerRule, RuleOf.mapping?] using exists_registerTypes_iff types mapping
  | .nested mapping => by
    simpa [registerRule, RuleOf.mapping?] using exists_registerTypes_iff types mapping
  | .field .. => by simp [registerRule, RuleOf.mapping?]
  | .assemble .. => by simp [registerRule, RuleOf.mapping?]
  | .nestedFields .. => by simp [registerRule, RuleOf.mapping?]

end

end Definition

/-! ## Adding rules -/

namespace FieldMapper

section

variable [Regex.Engine]

theorem exists_readCondition_iff (condition : Option String) :
    (∃ guard, readCondition condition = .ok guard) ↔
      ∀ text ∈ condition, ∃ e, Expression.parse text = .ok e := by
  cases condition with
  | none => simp [readCondition]
  | some text => cases parsed : Expression.parse text <;> simp [readCondition, parsed]

theorem exists_readSources_iff (texts : List String) :
    (∃ es, readSources texts = .ok es) ↔ ∀ text ∈ texts, ∃ e, Expression.parse text = .ok e := by
  induction texts with
  | nil => simp [readSources]
  | cons text rest ih =>
    rw [List.forall_mem_cons, ← ih, readSources]
    simp only [bind_eq_ok, pure_eq_ok, readSource_eq_ok]
    constructor
    · rintro ⟨_, e, parsed, es, all, -⟩
      exact ⟨⟨e, parsed⟩, es, all⟩
    · rintro ⟨⟨e, parsed⟩, es, all⟩
      exact ⟨e :: es, e, parsed, es, all, rfl⟩

section Adding

variable (m : FieldMapper) (condition : Option String)

theorem exists_addField_iff (source target : String) (converter : Option Converter) :
    (∃ m', m.addField source target converter condition = .ok m') ↔
      (∃ e, Expression.parse source = .ok e) ∧ (∃ path, Path.parse target = .ok path) ∧
        ∀ text ∈ condition, ∃ e, Expression.parse text = .ok e := by
  simp only [addField_eq_ok, readSource_eq_ok, readTarget_eq_ok, ← exists_readCondition_iff]
  constructor
  · rintro ⟨_, s, t, c, hs, ht, hc, -⟩
    exact ⟨⟨s, hs⟩, ⟨t, ht⟩, c, hc⟩
  · rintro ⟨⟨s, hs⟩, ⟨t, ht⟩, c, hc⟩
    exact ⟨_, s, t, c, hs, ht, hc, rfl⟩

theorem exists_addFanOut_iff (source : String) (mapper : NestedMapper) :
    (∃ m', m.addFanOut source mapper condition = .ok m') ↔
      (∃ e, Expression.parse source = .ok e) ∧
        ∀ text ∈ condition, ∃ e, Expression.parse text = .ok e := by
  simp only [addFanOut_eq_ok, readSource_eq_ok, ← exists_readCondition_iff]
  constructor
  · rintro ⟨_, s, c, hs, hc, -⟩
    exact ⟨⟨s, hs⟩, c, hc⟩
  · rintro ⟨⟨s, hs⟩, c, hc⟩
    exact ⟨_, s, c, hs, hc, rfl⟩

theorem exists_addWhole_iff (claimed : List String) (mapper : NestedMapper) :
    (∃ m', m.addWhole claimed mapper condition = .ok m') ↔
      ∀ text ∈ condition, ∃ e, Expression.parse text = .ok e := by
  simp only [addWhole_eq_ok, ← exists_readCondition_iff]
  constructor
  · rintro ⟨_, c, hc, -⟩
    exact ⟨c, hc⟩
  · rintro ⟨c, hc⟩
    exact ⟨_, c, hc, rfl⟩

theorem exists_addAssembled_iff (sources : List String) (target : String) (assembler : Converter) :
    (∃ m', m.addAssembled sources target assembler condition = .ok m') ↔
      (∀ text ∈ sources, ∃ e, Expression.parse text = .ok e) ∧
        (∃ path, Path.parse target = .ok path) ∧
          ∀ text ∈ condition, ∃ e, Expression.parse text = .ok e := by
  simp only [addAssembled_eq_ok, readTarget_eq_ok, ← exists_readCondition_iff,
    ← exists_readSources_iff]
  constructor
  · rintro ⟨_, ss, t, c, hs, ht, hc, -⟩
    exact ⟨⟨ss, hs⟩, ⟨t, ht⟩, c, hc⟩
  · rintro ⟨⟨ss, hs⟩, ⟨t, ht⟩, c, hc⟩
    exact ⟨_, ss, t, c, hs, ht, hc, rfl⟩

theorem exists_addGroup_iff (stem target : String) (assembler : Converter) :
    (∃ m', m.addGroup stem target assembler condition = .ok m') ↔
      stem ≠ "" ∧ (∃ path, Path.parse target = .ok path) ∧
        ∀ text ∈ condition, ∃ e, Expression.parse text = .ok e := by
  have present : stem.isEmpty = false ↔ stem ≠ "" := by
    rw [ne_eq, ← String.isEmpty_iff, Bool.not_eq_true]
  simp only [addGroup_eq_ok, readTarget_eq_ok, ← exists_readCondition_iff, present]
  constructor
  · rintro ⟨_, hs, t, c, ht, hc, -⟩
    exact ⟨hs, ⟨t, ht⟩, c, hc⟩
  · rintro ⟨hs, ⟨t, ht⟩, c, hc⟩
    exact ⟨_, hs, t, c, ht, hc, rfl⟩

end Adding

end

@[simp] theorem recordTypes_addEntry (m : FieldMapper) (e : Entry) :
    (m.addEntry e).recordTypes = m.recordTypes := by
  unfold addEntry
  split <;> rfl

end FieldMapper

namespace Definition

variable {types : TypeRegistry}

theorem recordTypes_of_addRules [Regex.Engine] {rules : List Rule} {m m' : FieldMapper}
    {position : Nat}
    (added : addRules types m position rules = .ok m') : m'.recordTypes = m.recordTypes := by
  induction rules generalizing m position with
  | nil =>
    rw [addRules] at added
    cases added
    rfl
  | cons rule rest ih =>
    rw [addRules] at added
    obtain ⟨between, first, more⟩ := bind_eq_ok.mp added
    rw [ih more]
    cases adds_of_addRule first with
    | writes e => exact m.recordTypes_addEntry e
    | hands e => exact m.recordTypes_addEntry e
    | converts => rfl

/-- The mapper of a definition maps between the record types that the definition names. -/
theorem recordTypes_of_buildWith [Regex.Engine] {d : Definition} {m : FieldMapper}
    (built : buildWith types d = .ok m) : m.recordTypes = (frame types d).recordTypes := by
  cases d with
  | mk =>
    rw [buildWith] at built
    exact recordTypes_of_addRules built

theorem checkTyped_eq_ok {d : Definition} :
    checkTyped d = .ok () ↔ d.sourceType.isSome ∧ d.targetType.isSome := by
  unfold checkTyped
  cases d.sourceType <;> cases d.targetType <;> simp

/-- A mapper of a definition that says between which types it converts can be added as a
converter. -/
theorem exists_addNested [Regex.Engine] {d : Definition} {inner : FieldMapper}
    (built : buildWith types d = .ok inner) (typed : d.sourceType.isSome ∧ d.targetType.isSome)
    (m : FieldMapper) (position : Nat) (targetFor : Value → FieldType → Value) :
    ∃ m', m.addNested (inner.nested position) targetFor = .ok m' := by
  obtain ⟨source, hasSource⟩ := Option.isSome_iff_exists.mp typed.1
  obtain ⟨target, hasTarget⟩ := Option.isSome_iff_exists.mp typed.2
  have names : inner.recordTypes = some (source, target) := by
    rw [recordTypes_of_buildWith built, frame, hasSource, hasTarget]
  have keys : inner.keys? = some (.record (some source), .record (some target)) := by
    rw [FieldMapper.keys?, names]
    rfl
  exact ⟨_, FieldMapper.addNested_eq_ok.mpr ⟨_, _, keys, rfl⟩⟩

mutual

/-- The mapper of a definition can be built if its rules, and those of all definitions inside it,
are valid. -/
theorem exists_buildWith_iff [Regex.Engine] (types : TypeRegistry) :
    ∀ d : Definition, (∃ m, buildWith types d = .ok m) ↔ d.Throughout RulesValid
  | ⟨_, _, _, _, _, _, _, rules⟩ => by
    rw [buildWith, exists_addRules_iff types rules, throughout_iff]
    simp only [forall_and]
    rfl

theorem exists_addRules_iff [Regex.Engine] (types : TypeRegistry) :
    ∀ (rules : List (RuleOf Definition)) (m : FieldMapper) (position : Nat),
      (∃ m', addRules types m position rules = .ok m') ↔
        ∀ rule ∈ rules, rule.Valid ∧
          ∀ mapping, rule.mapping? = some mapping → mapping.Throughout RulesValid
  | [], m, position => by simp [addRules]
  | rule :: rest, m, position => by
    have later (m' : FieldMapper) := exists_addRules_iff types rest m' (position + 1)
    rw [addRules, exists_bind_eq_ok_iff fun m' _ => later m', exists_addRule_iff types rule,
      List.forall_mem_cons]

theorem exists_addRule_iff [Regex.Engine] (types : TypeRegistry) :
    ∀ (rule : RuleOf Definition) (m : FieldMapper) (position : Nat),
      (∃ m', addRule types m position rule = .ok m') ↔ rule.Valid ∧
        ∀ mapping, rule.mapping? = some mapping → mapping.Throughout RulesValid
  | .field source target transform condition, m, position => by
    rw [addRule, FieldMapper.exists_addField_iff, RuleOf.valid_iff]
    simp [RuleOf.sources, RuleOf.target?, RuleOf.condition?, RuleOf.stem?, RuleOf.mapping?]
  | .fanOut source mapping condition, m, position => by
    rw [addRule, exists_bind_eq_ok_iff fun inner _ => m.exists_addFanOut_iff condition source _,
      exists_buildWith_iff types mapping, RuleOf.valid_iff]
    simp [RuleOf.sources, RuleOf.target?, RuleOf.condition?, RuleOf.stem?, RuleOf.mapping?,
      and_comm]
  | .multiSource claimed mapping condition, m, position => by
    rw [addRule, exists_bind_eq_ok_iff fun inner _ => m.exists_addWhole_iff condition claimed _,
      exists_buildWith_iff types mapping, RuleOf.valid_iff]
    simp [RuleOf.sources, RuleOf.target?, RuleOf.condition?, RuleOf.stem?, RuleOf.mapping?,
      and_comm]
  | .assemble sources target assembler condition, m, position => by
    rw [addRule, FieldMapper.exists_addAssembled_iff, RuleOf.valid_iff]
    simp [RuleOf.sources, RuleOf.target?, RuleOf.condition?, RuleOf.stem?, RuleOf.mapping?]
  | .nestedFields stem target assembler condition, m, position => by
    rw [addRule, FieldMapper.exists_addGroup_iff, RuleOf.valid_iff]
    simp [RuleOf.sources, RuleOf.target?, RuleOf.condition?, RuleOf.stem?, RuleOf.mapping?,
      and_left_comm, and_comm]
  | .nested mapping, m, position => by
    have valid : (RuleOf.nested mapping : Rule).Valid ↔
        mapping.sourceType.isSome ∧ mapping.targetType.isSome := by
      rw [RuleOf.valid_iff]
      simp [RuleOf.sources, RuleOf.target?, RuleOf.condition?, RuleOf.stem?]
    rw [valid]
    simp only [RuleOf.mapping?, Option.some.injEq, forall_eq', ← exists_buildWith_iff types mapping]
    rw [addRule]
    simp only [bind_eq_ok]
    constructor
    · rintro ⟨_, _, checked, inner, built, -⟩
      exact ⟨checkTyped_eq_ok.mp checked, inner, built⟩
    · rintro ⟨typed, inner, built⟩
      obtain ⟨m', added⟩ := exists_addNested built typed m position fun _ t => types.emptyFor t
      exact ⟨m', (), checkTyped_eq_ok.mpr typed, inner, built, added⟩

end

/-- A definition is built exactly if it is valid. -/
theorem exists_build_iff [Regex.Engine] (d : Definition) : (∃ m, d.build = .ok m) ↔ d.Valid := by
  rw [build, exists_bind_eq_ok_iff fun types _ => exists_buildWith_iff types d, typeRegistry,
    exists_registerTypes_iff, valid_iff]

end Definition

end Remap
