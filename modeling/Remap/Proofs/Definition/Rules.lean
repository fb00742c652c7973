import Remap.Definition.Build
import Remap.Proofs.Mapping.Adding
import Remap.Proofs.Mapping.Effect

/-!
# What a rule adds

A rule adds one entry or one converter to a mapper. `Adds` lists what it can be: an entry that
writes to a path, an entry that hands the target to the mapper of the definition inside the rule,
or that mapper as a converter.

Main statement: a rule that is added does one of these, and its guard is the guard of the entry.
-/

namespace Remap

/-- The definition by which a rule maps onto the target as a whole, if it does so. -/
def RuleOf.inside? {δ : Type} : RuleOf δ → Option δ
  | .fanOut _ mapping _ => some mapping
  | .multiSource _ mapping _ => some mapping
  | .field .. => none
  | .assemble .. => none
  | .nestedFields .. => none
  | .nested _ => none

/-- The guard of a rule, if it has one. -/
def RuleOf.condition? {δ : Type} : RuleOf δ → Option String
  | .field _ _ _ condition => condition
  | .fanOut _ _ condition => condition
  | .multiSource _ _ condition => condition
  | .assemble _ _ _ condition => condition
  | .nestedFields _ _ _ condition => condition
  | .nested _ => none

/-- The kind that a mapper maps to is a record type with a name. -/
theorem FieldMapper.eq_some_of_keys? (m : FieldMapper) {source : TypeKey} {target : Option String}
    (keys : m.keys? = some (source, .record target)) : ∃ name, target = some name := by
  obtain ⟨⟨_, name⟩, -, equal⟩ := Option.map_eq_some_iff.mp keys
  cases equal
  exact ⟨name, rfl⟩

namespace Definition

variable {types : TypeRegistry}

variable [Regex.Engine]

/-- What the rule at a position makes of a mapper. -/
inductive Adds (types : TypeRegistry) (m : FieldMapper) (position : Nat) (rule : Rule) :
    FieldMapper → Prop
  /-- An entry that writes to a path. -/
  | writes (e : Entry) (path : Path) (writes : e.action.path? = some path) :
      Adds types m position rule (m.addEntry e)
  /-- An entry that hands the target to the mapper of the definition inside the rule. -/
  | hands (e : Entry) (mapping : Definition) (inner : FieldMapper)
      (inside : rule.inside? = some mapping) (built : buildWith types mapping = .ok inner)
      (hands : e.action.mapper? = some (inner.nested position)) :
      Adds types m position rule (m.addEntry e)
  /-- A converter that runs the mapper of a definition on a new record of a declared type. -/
  | converts (mapping : Definition) (inner : FieldMapper) (source : TypeKey) (name : String)
      (nested : rule = .nested mapping) (built : buildWith types mapping = .ok inner)
      (keys : inner.keys? = some (source, .record (some name))) :
      Adds types m position rule
        { m with
          conversions := m.conversions.add source (.record (some name))
            ((inner.nested position).toConverter fun _ t => types.emptyFor t) }

/-- A rule that is added to a mapper adds an entry or a converter. -/
theorem adds_of_addRule {rule : Rule} {m m' : FieldMapper} {position : Nat}
    (added : addRule types m position rule = .ok m') : Adds types m position rule m' := by
  cases rule with
  | field =>
    rw [addRule] at added
    obtain ⟨_, path, _, -, -, -, rfl⟩ := FieldMapper.addField_eq_ok.mp added
    exact .writes _ path rfl
  | fanOut source mapping condition =>
    rw [addRule] at added
    obtain ⟨inner, built, added⟩ := bind_eq_ok.mp added
    obtain ⟨_, _, -, -, rfl⟩ := FieldMapper.addFanOut_eq_ok.mp added
    exact .hands _ mapping inner rfl built rfl
  | multiSource claimed mapping condition =>
    rw [addRule] at added
    obtain ⟨inner, built, added⟩ := bind_eq_ok.mp added
    obtain ⟨_, -, rfl⟩ := FieldMapper.addWhole_eq_ok.mp added
    exact .hands _ mapping inner rfl built rfl
  | assemble =>
    rw [addRule] at added
    obtain ⟨_, path, _, -, -, -, rfl⟩ := FieldMapper.addAssembled_eq_ok.mp added
    exact .writes _ path rfl
  | nestedFields =>
    rw [addRule] at added
    obtain ⟨-, path, _, -, -, rfl⟩ := FieldMapper.addGroup_eq_ok.mp added
    exact .writes _ path rfl
  | nested mapping =>
    rw [addRule] at added
    obtain ⟨_, -, added⟩ := bind_eq_ok.mp added
    obtain ⟨inner, built, added⟩ := bind_eq_ok.mp added
    obtain ⟨source, target, keys, rfl⟩ := FieldMapper.addNested_eq_ok.mp added
    obtain ⟨name, rfl⟩ := inner.eq_some_of_keys? keys
    exact .converts mapping inner source name rfl built keys

/-- The guard of the entry that a rule adds is the one that the rule has. -/
theorem condition_of_addRule {rule : Rule} {m m' : FieldMapper} {position : Nat} {e : Entry}
    (added : addRule types m position rule = .ok m') (member : e ∈ m'.entries) :
    e ∈ m.entries ∨ FieldMapper.readCondition rule.condition? = .ok e.condition := by
  cases rule with
  | field =>
    rw [addRule] at added
    obtain ⟨_, _, _, -, -, read, rfl⟩ := FieldMapper.addField_eq_ok.mp added
    exact FieldMapper.condition_of_addEntry read member
  | fanOut =>
    rw [addRule] at added
    obtain ⟨_, -, added⟩ := bind_eq_ok.mp added
    obtain ⟨_, _, -, read, rfl⟩ := FieldMapper.addFanOut_eq_ok.mp added
    exact FieldMapper.condition_of_addEntry read member
  | multiSource =>
    rw [addRule] at added
    obtain ⟨_, -, added⟩ := bind_eq_ok.mp added
    obtain ⟨_, read, rfl⟩ := FieldMapper.addWhole_eq_ok.mp added
    exact FieldMapper.condition_of_addEntry read member
  | assemble =>
    rw [addRule] at added
    obtain ⟨_, _, _, -, -, read, rfl⟩ := FieldMapper.addAssembled_eq_ok.mp added
    exact FieldMapper.condition_of_addEntry read member
  | nestedFields =>
    rw [addRule] at added
    obtain ⟨-, _, _, -, read, rfl⟩ := FieldMapper.addGroup_eq_ok.mp added
    exact FieldMapper.condition_of_addEntry read member
  | nested =>
    rw [addRule] at added
    obtain ⟨_, -, added⟩ := bind_eq_ok.mp added
    obtain ⟨_, -, added⟩ := bind_eq_ok.mp added
    obtain ⟨_, _, -, rfl⟩ := FieldMapper.addNested_eq_ok.mp added
    exact .inl member

end Definition

end Remap
