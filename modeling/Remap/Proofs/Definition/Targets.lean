import Remap.Proofs.Mapping.Preview
import Remap.Proofs.Mapping.Targets
import Remap.Regex.Reader

/-!
# What a definition targets

The nested mapper of an entry carries the position of its rule, and the rule holds the definition
that it was built from. So the paths that a pass of a built mapper targets can be told from the
definition and from what the pass runs on.

Main statement: a pass of a built mapper over a record changes only what it targets.
-/

namespace Remap

namespace Definition

variable [Regex.Engine]

mutual

/-- The paths that a pass of the mapper of a definition targets. -/
def targetsWith (types : TypeRegistry) :
    Definition → (source target : Value) → Scope → List Path
  | ⟨name, sourceType, targetType, autoMapping, policy, excluded, declared, rules⟩, source, target,
      scope =>
    match buildWith types
      ⟨name, sourceType, targetType, autoMapping, policy, excluded, declared, rules⟩ with
    | .ok m => m.targets (targetsInside types rules) source target scope
    | .error _ => []

/-- The paths that a pass of the definition inside the rule at a position targets. -/
def targetsInside (types : TypeRegistry) :
    List (RuleOf Definition) → Nat → (source target : Value) → Scope → List Path
  | [], _, _, _, _ => []
  | rule :: _, 0, source, target, scope => targetsOfRule types rule source target scope
  | _ :: rest, position + 1, source, target, scope =>
    targetsInside types rest position source target scope

/-- The paths that a pass of the definition inside a rule targets. -/
def targetsOfRule (types : TypeRegistry) :
    RuleOf Definition → (source target : Value) → Scope → List Path
  | .fanOut _ mapping _, source, target, scope => targetsWith types mapping source target scope
  | .multiSource _ mapping _, source, target, scope => targetsWith types mapping source target scope
  | .field .., _, _, _ => []
  | .assemble .., _, _, _ => []
  | .nestedFields .., _, _, _ => []
  | .nested _, _, _, _ => []

end

/-- The paths that a pass of the mapper that a definition describes targets. -/
def targets (d : Definition) (source target : Value) (scope : Scope) : List Path :=
  match d.typeRegistry with
  | .ok types => targetsWith types d source target scope
  | .error _ => []

/-! ## Where entries come from -/

variable {types : TypeRegistry}

/-- A nested mapper that an entry has is the one that was built from the definition inside the rule
at a position. -/
def Handed (types : TypeRegistry) (position : Nat) (rule : Rule) (e : Entry) : Prop :=
  ∀ mapper, e.action.mapper? = some mapper → ∃ mapping inner, rule.inside? = some mapping ∧
    buildWith types mapping = .ok inner ∧ mapper = inner.nested position

theorem handed_of_path? {position : Nat} {rule : Rule} {e : Entry} {path : Path}
    (writes : e.action.path? = some path) : Handed types position rule e :=
  fun mapper hands => absurd hands (Action.mapper?_ne_some writes mapper)

/-- The entry that a rule adds has the nested mapper of that rule, if it has one. -/
theorem handed_of_addRule {rule : Rule} {m m' : FieldMapper} {position : Nat} {e : Entry}
    (added : addRule types m position rule = .ok m') (member : e ∈ m'.entries) :
    e ∈ m.entries ∨ Handed types position rule e := by
  cases adds_of_addRule added with
  | writes new path writes =>
    refine (FieldMapper.mem_entries_addEntry member).imp_right ?_
    rintro rfl
    exact handed_of_path? writes
  | hands new mapping inner inside built hands =>
    refine (FieldMapper.mem_entries_addEntry member).imp_right ?_
    rintro rfl mapper also
    cases hands.symm.trans also
    exact ⟨mapping, inner, inside, built, rfl⟩
  | converts => exact .inl member

/-- The entries that rules add have the nested mappers of those rules. -/
theorem handed_of_addRules {rules : List Rule} {m m' : FieldMapper} {position : Nat} {e : Entry}
    (added : addRules types m position rules = .ok m') (member : e ∈ m'.entries) :
    e ∈ m.entries ∨ ∃ i rule, rules[i]? = some rule ∧ Handed types (position + i) rule e := by
  induction rules generalizing m position with
  | nil =>
    rw [addRules] at added
    cases added
    exact .inl member
  | cons first rest ih =>
    rw [addRules] at added
    obtain ⟨between, head, more⟩ := bind_eq_ok.mp added
    rcases ih more with earlier | ⟨i, rule, found, handed⟩
    · exact (handed_of_addRule head earlier).imp_right fun handed => ⟨0, first, rfl, handed⟩
    · refine .inr ⟨i + 1, rule, found, ?_⟩
      rwa [Nat.add_right_comm, Nat.add_assoc] at handed

mutual

/-- The nested mappers of a built mapper stay within what the definitions inside its rules
target. -/
theorem staysWithin_of_buildWith {types : TypeRegistry} :
    ∀ {d : Definition} {m : FieldMapper}, buildWith types d = .ok m →
      ∀ tag, (m.nested tag).StaysWithin (targetsWith types d)
  | ⟨_, _, _, _, _, _, _, rules⟩, m, built, tag => by
    have within : ∀ e ∈ m.entries, ∀ mapper, e.action.mapper? = some mapper →
        mapper.StaysWithin (targetsInside types rules mapper.tag) := by
      intro e member mapper hands
      rw [buildWith] at built
      rcases handed_of_addRules built member with old | ⟨i, rule, found, handed⟩
      · cases old
      · obtain ⟨mapping, inner, inside, builtInside, rfl⟩ := handed mapper hands
        rw [Nat.zero_add]
        exact staysWithin_inside found inside builtInside i
    intro source target scope
    simp only [targetsWith, built]
    exact FieldMapper.staysWithin_nested within tag source target scope

/-- The mapper of the definition inside a rule stays within what is told for the position of the
rule. -/
theorem staysWithin_inside {types : TypeRegistry} :
    ∀ {rules : List (RuleOf Definition)} {i : Nat} {rule : RuleOf Definition} {mapping : Definition}
      {inner : FieldMapper}, rules[i]? = some rule → rule.inside? = some mapping →
        buildWith types mapping = .ok inner →
          ∀ tag, (inner.nested tag).StaysWithin (targetsInside types rules i)
  | [], _, _, _, _, found, _, _, _ => by cases found
  | first :: _, 0, _, _, _, found, inside, built, tag => by
    cases found
    intro source target scope
    rw [targetsInside]
    exact staysWithin_of_rule inside built tag source target scope
  | _ :: rest, i + 1, rule, _, _, found, inside, built, tag => by
    have below : rest[i]? = some rule := found
    intro source target scope
    rw [targetsInside]
    exact staysWithin_inside below inside built tag source target scope

/-- The mapper of the definition inside a rule stays within what is told for the rule. -/
theorem staysWithin_of_rule {types : TypeRegistry} :
    ∀ {rule : RuleOf Definition} {mapping : Definition} {inner : FieldMapper},
      rule.inside? = some mapping → buildWith types mapping = .ok inner →
        ∀ tag, (inner.nested tag).StaysWithin (targetsOfRule types rule)
  | .fanOut _ mapping _, _, _, inside, built, tag => by
    cases inside
    intro source target scope
    rw [targetsOfRule]
    exact staysWithin_of_buildWith built tag source target scope
  | .multiSource _ mapping _, _, _, inside, built, tag => by
    cases inside
    intro source target scope
    rw [targetsOfRule]
    exact staysWithin_of_buildWith built tag source target scope
  | .field .., _, _, inside, _, _ => by cases inside
  | .assemble .., _, _, inside, _, _ => by cases inside
  | .nestedFields .., _, _, inside, _, _ => by cases inside
  | .nested _, _, _, inside, _, _ => by cases inside

end

/-- A pass changes only what it targets. If a built mapper maps onto a record, it leaves a record of
the same shape. A field that starts none of the targeted paths is still missing, or holds what it
held, and the fields from before come first, in their order. -/
theorem mapWithResults_changes_targets (d : Definition) (m : FieldMapper) (built : d.build = .ok m)
    (source : Value) (hasSource : source.isNull = false) (target : Record) (scope : Scope) :
    ∃ results last scope',
      (m.mapWithResults source (.record target)).run scope = (.ok (results, .record last), scope') ∧
        last.shape = target.shape ∧
        (∀ name, (∀ path ∈ d.targets source (.record target) scope,
            path.rootProperty? ≠ some name) → last.get? name = target.get? name) ∧
        Fields.names target.fields <+: Fields.names last.fields := by
  have hasTarget : (Value.record target).isNull = false := rfl
  obtain ⟨types, declared, builtWith⟩ := bind_eq_ok.mp built
  have within := staysWithin_of_buildWith builtWith 0 source (.record target) scope
  rw [m.target_nested hasSource hasTarget] at within
  obtain ⟨last, after, changed⟩ := within target rfl
  refine ⟨((m.run source (.record target)).run scope).1.1, last,
    ((m.run source (.record target)).run scope).2, ?_, changed.shape, ?_, changed.order⟩
  · rw [m.run_mapWithResults hasSource hasTarget, ← after]
  · simp only [targets, declared]
    exact changed.elsewhere

end Definition

namespace Shipment

/-- A berth with a crane, where a ship for Sydney lies. -/
def berth : Record := ⟨.unnamed, [("crane", .string "tall"), ("port", .string "Sydney")]⟩

/-- Booking an order at a berth targets what the order has, most of it in nested passes, and not the
crane. -/
theorem booking_spares_crane :
    ∃ m, booking.build = .ok m ∧ order.isNull = false ∧
      (∀ path ∈ booking.targets order (.record berth) [], path.rootProperty? ≠ some "crane") ∧
      ∃ results last scope',
        (m.mapWithResults order (.record berth)).run [] = (.ok (results, .record last), scope') ∧
          last.shape = berth.shape ∧
          (∀ name, (∀ path ∈ booking.targets order (.record berth) [],
              path.rootProperty? ≠ some name) → last.get? name = berth.get? name) ∧
          Fields.names berth.fields <+: Fields.names last.fields :=
  ⟨_, rfl, rfl, by decide,
    Definition.mapWithResults_changes_targets booking _ rfl order rfl berth []⟩

end Shipment

end Remap
