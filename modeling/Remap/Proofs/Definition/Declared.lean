import Remap.Proofs.Definition.Validity
import Remap.Regex.Reader

/-!
# Declared source and target types

A definition can name the record type of its sources and the record type of its targets. The mapper
keeps the two names as a pair, so it has both of them or none.

Main statement: if a definition names both types, its mapper binds sources to the one and makes
empty targets of the other, as far as they are registered. If it names at most one, its mapper
leaves sources as they are and makes empty records without a type.
-/

namespace Remap

namespace Definition

variable {types : TypeRegistry} {d : Definition} {m : FieldMapper}

variable [Regex.Engine]

theorem keeps_types (types : TypeRegistry) :
    Keeps types (fun _ => True) fun m => m.types = types where
  start _ := rfl
  rule _ m _ _ _ holds added _ := by
    cases adds_of_addRule added with
    | writes e => exact (m.types_addEntry e).trans holds
    | hands e => exact (m.types_addEntry e).trans holds
    | converts => exact holds
  inside _ _ _ _ _ _ := trivial

/-- A mapper is built with the registry that its whole definition shares. -/
theorem types_of_buildWith (built : buildWith types d = .ok m) : m.types = types :=
  (keeps_types types).of_buildWith (fun _ _ => trivial) built

/-- A mapper whose definition names both record types maps between them. -/
theorem recordTypes_of_named (built : buildWith types d = .ok m) {source target : String}
    (hasSource : d.sourceType = some source) (hasTarget : d.targetType = some target) :
    m.recordTypes = some (source, target) := by
  rw [recordTypes_of_buildWith built, frame, hasSource, hasTarget]

/-- A mapper whose definition leaves a record type open maps between no types. -/
theorem recordTypes_of_open (built : buildWith types d = .ok m)
    (missing : d.sourceType = none ∨ d.targetType = none) : m.recordTypes = none := by
  rw [recordTypes_of_buildWith built, frame]
  rcases missing with noSource | noTarget
  · rw [noSource]
  · cases hasSource : d.sourceType with
    | none => rfl
    | some source => rw [noTarget]

end Definition

namespace FieldMapper

variable {m : FieldMapper} {source target : String}

theorem bindSource_of_registered (pair : m.recordTypes = some (source, target))
    (registered : m.types.contains source = true) (v : Value) :
    m.bindSource v = (m.types.instantiate source v).mapError .model := by
  simp only [bindSource, pair, registered, if_true]

theorem bindSource_of_unregistered (pair : m.recordTypes = some (source, target))
    (unregistered : m.types.contains source = false) (v : Value) : m.bindSource v = .ok v := by
  simp [bindSource, pair, unregistered]

theorem bindSource_of_untyped (untyped : m.recordTypes = none) (v : Value) :
    m.bindSource v = .ok v := by
  simp only [bindSource, untyped]

theorem newTarget_of_registered (pair : m.recordTypes = some (source, target))
    {descriptor : TypeDescriptor} (registered : m.types.get? target = some descriptor) :
    m.newTarget = .record (.typed descriptor) := by
  simp only [newTarget, pair, TypeRegistry.emptyFor, registered]

theorem newTarget_of_unregistered (pair : m.recordTypes = some (source, target))
    (unregistered : m.types.get? target = none) : m.newTarget = .record (.named target) := by
  simp only [newTarget, pair, TypeRegistry.emptyFor, unregistered, Value.emptyNamed]

theorem newTarget_of_untyped (untyped : m.recordTypes = none) : m.newTarget = .emptyRecord := by
  simp only [newTarget, untyped]

end FieldMapper

namespace Definition

/-- Declared types survive the build in pairs. With both types declared, an empty target has the
registered descriptor, or else just the name of the target type, and a source is instantiated if
its type is registered. With one of them missing, the other one has no effect. -/
theorem declared_types_of_build [Regex.Engine] (d : Definition) (m : FieldMapper)
    (built : d.build = .ok m) : ∃ types, d.typeRegistry = .ok types ∧
      (∀ source target, d.sourceType = some source → d.targetType = some target →
        (∀ descriptor, types.get? target = some descriptor →
          m.newTarget = .record (.typed descriptor)) ∧
        (types.get? target = none → m.newTarget = .record (.named target)) ∧
        (types.contains source = true →
          ∀ v, m.bindSource v = (types.instantiate source v).mapError .model) ∧
        (types.contains source = false → ∀ v, m.bindSource v = .ok v)) ∧
      (d.sourceType = none ∨ d.targetType = none →
        m.newTarget = .emptyRecord ∧ ∀ v, m.bindSource v = .ok v) := by
  obtain ⟨types, registered, built⟩ := bind_eq_ok.mp built
  have shared : m.types = types := types_of_buildWith built
  refine ⟨types, registered, ?_, ?_⟩
  · intro source target hasSource hasTarget
    have pair := recordTypes_of_named built hasSource hasTarget
    subst shared
    refine ⟨?_, ?_, ?_, ?_⟩
    · intro descriptor found
      exact FieldMapper.newTarget_of_registered pair found
    · intro absent
      exact FieldMapper.newTarget_of_unregistered pair absent
    · intro found v
      exact FieldMapper.bindSource_of_registered pair found v
    · intro absent v
      exact FieldMapper.bindSource_of_unregistered pair absent v
  · intro missing
    have untyped := recordTypes_of_open built missing
    refine ⟨FieldMapper.newTarget_of_untyped untyped, ?_⟩
    intro v
    exact FieldMapper.bindSource_of_untyped untyped v

end Definition

namespace Shipment

/-- What is declared of a parcel. -/
def parcelType : TypeDescriptor := ⟨"Parcel", [⟨"weight", .string, true⟩]⟩

/-- Declares what a parcel is, and that targets are parcels. -/
def delivery : Definition where
  targetType := some "Parcel"
  types := [⟨"Parcel", [⟨"weight", .string, none, true⟩]⟩]

/-- A delivery that also says what it delivers from. -/
def unpacking : Definition := { delivery with sourceType := some "Crate" }

/-- Unpacking makes parcels, and takes crates as they are: nothing declares what a crate is. -/
theorem unpacking_makes_parcels :
    ∃ m, unpacking.build = .ok m ∧ m.newTarget = .record (.typed parcelType) ∧
      ∀ v, m.bindSource v = .ok v := by
  refine ⟨_, rfl, ?_⟩
  obtain ⟨types, registered, paired, -⟩ := Definition.declared_types_of_build unpacking _ rfl
  cases registered
  obtain ⟨makes, -, -, keeps⟩ := paired "Crate" "Parcel" rfl rfl
  exact ⟨makes parcelType rfl, keeps rfl⟩

/-- A delivery that only says what its targets are does not make parcels, although it declares what
a parcel is. -/
theorem delivery_makes_no_parcels :
    ∃ m types, delivery.build = .ok m ∧ delivery.typeRegistry = .ok types ∧
      delivery.targetType = some "Parcel" ∧ types.get? "Parcel" = some parcelType ∧
      m.newTarget ≠ .record (.typed parcelType) := by
  refine ⟨_, _, rfl, rfl, rfl, rfl, ?_⟩
  intro equal
  cases equal

end Shipment

end Remap
