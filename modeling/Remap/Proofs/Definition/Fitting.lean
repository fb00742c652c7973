import Remap.Proofs.Convert.Everywhere
import Remap.Proofs.Convert.Standard
import Remap.Proofs.Mapping.Preview
import Remap.Proofs.Model.Binding
import Remap.Regex.Reader

/-!
# Values that were fitted fit

The coercer of a built mapper converts by its registry of converters: the standard ones, and the
nested mappers of the definition. A standard converter gives a scalar of the kind that it is
registered for, or null. A nested mapper maps onto a record made for the declared type, and however
deep it goes, the record keeps its type.

Main statement: what a built mapper fits to a declared type is accepted by that type, so fitting it
again changes nothing.
-/

namespace Remap

/-- The converter gives only values that the declared type accepts. -/
def TypedConverter.Gives (converter : TypedConverter Scoped) (t : FieldType) : Prop :=
  ∀ v scope w scope', (converter v t).run.run scope = (.ok w, scope') → t.accepts w = true

/-- A function on values as a converter gives what the function gives. -/
theorem Standard.plain_gives {f : Value → Except ConversionError Value} {t : FieldType}
    (fits : ∀ {v w}, f v = .ok w → t.accepts w = true) :
    (plain f : TypedConverter Scoped).Gives t := by
  intro v scope w scope' ran
  exact fits (congrArg Prod.fst ran)

/-! ## Registries -/

namespace ConversionRegistry

/-- Nothing is remembered, and each converter gives values of every declared type that it is looked
up for. -/
structure Faithful (r : ConversionRegistry Scoped) : Prop where
  fresh : r.remembered = []
  gives : ∀ source target converter, lookup r.table (source, target) = some converter →
    ∀ t : FieldType, target ∈ t.key.targetCandidates → converter.Gives t

variable {r : ConversionRegistry Scoped}

/-- A converter that is registered for the very key of a declared type is looked up for no other
type. -/
theorem eq_of_mem_targetCandidates {t declared : FieldType}
    (candidate : declared.key ∈ t.key.targetCandidates) : t = declared := by
  cases t <;> cases declared <;>
    simp [FieldType.key, TypeKey.targetCandidates] at candidate ⊢
  exact candidate.symm

theorem Faithful.empty : (ConversionRegistry.empty : ConversionRegistry Scoped).Faithful :=
  ⟨rfl, fun _ _ _ entry => by cases entry⟩

/-- A registry stays faithful with a converter that gives values of the type that it is registered
for. -/
theorem Faithful.add (faithful : r.Faithful) (source : TypeKey) (declared : FieldType)
    {converter : TypedConverter Scoped} (new : converter.Gives declared) :
    (r.add source declared.key converter).Faithful := by
  refine ⟨rfl, fun s target other entry t candidate => ?_⟩
  by_cases here : (s, target) = (source, declared.key)
  · cases here
    rw [ConversionRegistry.add, lookup_store_self] at entry
    cases entry
    rw [eq_of_mem_targetCandidates candidate]
    exact new
  · rw [ConversionRegistry.add, lookup_store_of_ne r.table converter here] at entry
    exact faithful.gives s target other entry t candidate

theorem Faithful.standard : (ConversionRegistry.standard : ConversionRegistry Scoped).Faithful :=
  Faithful.empty
    |>.add .string .integer (Standard.plain_gives Standard.textToInteger_accepts)
    |>.add .string .decimal (Standard.plain_gives Standard.textToDecimal_accepts)
    |>.add .string .boolean (Standard.plain_gives Standard.textToBoolean_accepts)
    |>.add .integer .decimal (Standard.plain_gives Standard.numberToDecimal_accepts)
    |>.add .decimal .integer (Standard.plain_gives Standard.decimalToInteger_accepts)
    |>.add .integer .string (Standard.plain_gives Standard.scalarToText_accepts)
    |>.add .decimal .string (Standard.plain_gives Standard.scalarToText_accepts)
    |>.add .boolean .string (Standard.plain_gives Standard.scalarToText_accepts)

/-- A converter that a faithful registry finds for a declared type gives values of that type. -/
theorem Faithful.gives_of_find (faithful : r.Faithful) {source : TypeKey} {t : FieldType}
    {converter : TypedConverter Scoped} (found : (r.find source t.key).1 = some converter) :
    converter.Gives t := by
  obtain ⟨s, target, candidate, entry⟩ := lookup_of_find faithful.fresh found
  exact faithful.gives s target converter entry t candidate

/-- What a faithful registry converts to a declared type is accepted by it. -/
theorem Faithful.accepts_of_convert (faithful : r.Faithful) {v w : Value} {t : FieldType}
    {scope scope' : Scope} (converted : (r.convert v t).run.run scope = (.ok w, scope')) :
    t.accepts w = true := by
  unfold convert at converted
  split at converted
  · next accepted =>
    cases converted
    exact accepted
  · cases found : (r.find v.key t.key).1 with
    | some converter =>
      rw [found] at converted
      exact faithful.gives_of_find found v scope w scope' converted
    | none =>
      rw [found] at converted
      cases converted

end ConversionRegistry

/-! ## Records -/

namespace TypeRegistry

variable {types : TypeRegistry}

/-- What is created for a declared record type is a record of that type. -/
theorem emptyFor_record (types : TypeRegistry) (name : String) :
    ∃ r : Record, types.emptyFor (.record name) = .record r ∧ r.shape.name? = some name := by
  cases registered : types.get? name with
  | none => exact ⟨.named name, by simp [emptyFor, registered, Value.emptyNamed], rfl⟩
  | some d =>
    exact ⟨.typed d, by simp [emptyFor, registered], congrArg some (name_of_get? registered)⟩

/-- A value that was bound to a descriptor is null or a record of its type. -/
theorem accepts_of_bind {d : TypeDescriptor} {v w : Value} (bound : types.bind d v = .ok w) :
    (FieldType.record d.name).accepts w = true := by
  cases v with
  | null =>
    cases bound
    rfl
  | record r =>
    obtain ⟨s, result, equal⟩ := bind_eq_ok.mp bound
    cases equal
    have shape : s.shape = .typed d := shape_bindFields result
    simp [FieldType.accepts, shape, Shape.name?]
  | _ => cases bound

end TypeRegistry

/-- Only a declared record type is one to bind to, and its own descriptor is the one. -/
theorem eq_record_of_bindable? {found : Bool} {types : TypeRegistry} {v : Value} {t : FieldType}
    {d : TypeDescriptor} (bindable : bindable? found types v t = some d) : t = .record d.name := by
  unfold bindable? at bindable
  split at bindable
  · split at bindable
    · cases bindable
    · rw [TypeRegistry.name_of_get? bindable]
  · cases bindable

/-- What a faithful registry and any types fit to a declared type is accepted by it. -/
theorem accepts_of_coerceWith {conversions : ConversionRegistry Scoped}
    (faithful : conversions.Faithful) {types : TypeRegistry} {v w : Value} {t : FieldType}
    {scope scope' : Scope}
    (coerced : (coerceWith conversions types v t).run.run scope = (.ok w, scope')) :
    t.accepts w = true := by
  rcases coerceWith_eq_ok coerced with ⟨accepted, rfl⟩ | ⟨d, bindable, bound⟩ | converted
  · exact accepted
  · rw [eq_record_of_bindable? bindable]
    exact TypeRegistry.accepts_of_bind bound
  · exact faithful.accepts_of_convert converted

/-! ## Built mappers -/

section

variable [Regex.Engine]

/-- A layered mapper as a converter gives records of the declared type: its passes leave the shape
of the record that they start from. -/
theorem FieldMapper.Layered.toConverter_gives {inner : FieldMapper} (layered : inner.Layered)
    (tag : Nat) (types : TypeRegistry) (name : String) :
    TypedConverter.Gives ((inner.nested tag).toConverter fun _ t => types.emptyFor t)
      (.record name) := by
  intro v scope w scope' ran
  obtain ⟨r, created, type⟩ := types.emptyFor_record name
  have kept := layered.keeps Value.SameRoot.refl Value.SameRoot.trans Path.keeps_sameRoot tag v
    (types.emptyFor (.record name)) scope
  cases null : v.isNull with
  | true =>
    simp only [NestedMapper.toConverter, null, if_true] at ran
    cases ran
    rfl
  | false =>
    rw [NestedMapper.run_toConverter _ _ null, created] at ran
    rw [created] at kept
    cases outcome : ((inner.nested tag).run v (.record r)).run scope with
    | mk left after =>
      obtain ⟨verdict, last⟩ := left
      rw [outcome] at ran kept
      cases verdict with
      | error e => cases ran
      | ok _ =>
        cases ran
        obtain ⟨s, rfl, shape⟩ := kept.exists_record
        simp [FieldType.accepts, shape, type]

namespace Definition

variable {types : TypeRegistry}

/-- A rule keeps the converters of a mapper faithful: it adds none, or a nested mapper that was
built from a definition. -/
theorem faithful_of_addRule {rule : Rule} {m m' : FieldMapper} {position : Nat}
    (faithful : m.conversions.Faithful) (added : addRule types m position rule = .ok m') :
    m'.conversions.Faithful := by
  cases adds_of_addRule added with
  | writes | hands => rwa [FieldMapper.conversions_addEntry]
  | converts mapping inner source name _ built _ =>
    exact faithful.add source (.record name)
      ((layered_of_buildWith built).toConverter_gives position types name)

/-- Rules keep the converters of a mapper faithful. -/
theorem faithful_of_addRules {rules : List Rule} {m m' : FieldMapper} {position : Nat}
    (faithful : m.conversions.Faithful) (added : addRules types m position rules = .ok m') :
    m'.conversions.Faithful := by
  induction rules generalizing m position with
  | nil =>
    rw [addRules] at added
    cases added
    exact faithful
  | cons rule rest ih =>
    rw [addRules] at added
    obtain ⟨between, first, more⟩ := bind_eq_ok.mp added
    exact ih (faithful_of_addRule faithful first) more

/-- The converters of a built mapper are faithful. -/
theorem faithful_of_build {d : Definition} {m : FieldMapper} (built : d.build = .ok m) :
    m.conversions.Faithful := by
  obtain ⟨types, -, built⟩ := bind_eq_ok.mp built
  cases d with
  | mk =>
    rw [buildWith] at built
    exact faithful_of_addRules .standard built

/-- Coercion lands in the declared type: what a built mapper fits to a declared type is accepted by
it, so fitting it to the type once more leaves it as it is. -/
theorem coerce_lands_in_type (d : Definition) (m : FieldMapper) (built : d.build = .ok m)
    (v w : Value) (t : FieldType) (scope scope' : Scope)
    (coerced : (m.coercer.coerce v t).run.run scope = (.ok w, scope')) :
    t.accepts w = true ∧ m.coercer.coerce w t = pure w := by
  have accepted : t.accepts w = true := accepts_of_coerceWith (faithful_of_build built) coerced
  exact ⟨accepted, coerceWith_of_accepts accepted⟩

end Definition

end

namespace Shipment

/-- Declares what a parcel is, and that crates become parcels field by field. -/
def repacking : Definition where
  types := [⟨"Parcel", [⟨"weight", .string, none, true⟩, ⟨"sender", .any, none, true⟩]⟩]
  rules := [.nested
    { name := "repack", sourceType := some "Crate", targetType := some "Parcel" }]

/-- A crate. -/
def crate : Value := .record ⟨.named "Crate", [("weight", .string "3kg"), ("slats", .boolean true)]⟩

/-- The parcel that a crate becomes. -/
def parcel : Value :=
  .record ⟨.typed ⟨"Parcel", [⟨"weight", .string, true⟩, ⟨"sender", .any, true⟩]⟩,
    [("weight", .string "3kg")]⟩

/-- A crate that goes where a parcel is declared becomes one, by a nested mapper, and a parcel
stays. -/
theorem repacking_gives_parcel :
    ∃ m, repacking.build = .ok m ∧
      (m.coercer.coerce crate (.record "Parcel")).run.run [] = (.ok parcel, []) ∧
      (FieldType.record "Parcel").accepts parcel = true ∧
      m.coercer.coerce parcel (.record "Parcel") = pure parcel :=
  ⟨_, rfl, rfl,
    Definition.coerce_lands_in_type repacking _ rfl crate parcel (.record "Parcel") [] [] rfl⟩

end Shipment

end Remap
