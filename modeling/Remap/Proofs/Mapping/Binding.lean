import Remap.Proofs.Definition.Fitting
import Remap.Proofs.Path.Outcome

/-!
# Binding open records

A record without declarations that goes where a registered type is declared is bound to the type:
its fields are stored one after the other in a record of that type. On the way a record that goes
where a registered type is declared is bound in the same way. Everything else is kept as it is, and
nobody asks whether its field was declared with another type.

Main statement: in a record that was bound, and in all that were bound on the way, a field holds
what its declared type takes exactly if it was given a record to bind or something of that type. The
same field written by itself is fitted to its declared type.
-/

namespace Remap

namespace TypeRegistry

variable {types : TypeRegistry} {d : TypeDescriptor} {r s : Record}

/-- A content for a field of a declared type is bound: it is a record, and the type is
registered. -/
def binds (types : TypeRegistry) (t : FieldType) : Value → Bool
  | .record _ => (types.nestedType? t).isSome
  | _ => false

/-- The pairs of records that belong to each other when one record was bound to another: these two,
and the ones that were bound on the way. -/
inductive BoundInside (types : TypeRegistry) (r s : Record) : Record → Record → Prop
  | whole : BoundInside types r s r s
  | field {r' s' inner bound : Record} {name : String} {d : TypeDescriptor}
      (outer : BoundInside types r s r' s') (closed : s'.descriptor?.isSome = true)
      (given : (name, .record inner) ∈ r'.fields) (held : s'.get? name = some (.record bound))
      (nested : types.nestedType? (s'.declaredType name) = some d)
      (made : types.bindFields d (.typed d) inner.fields = .ok bound) :
      BoundInside types r s inner bound

/-- A content that is bound is a record that becomes a record; any other content stays. -/
theorem bindSlot_eq_ok {t : FieldType} {v w : Value} (made : types.bindSlot t v = .ok w) :
    (∃ inner bound d, v = .record inner ∧ w = .record bound ∧ types.nestedType? t = some d ∧
        types.bindFields d (.typed d) inner.fields = .ok bound) ∨
      types.binds t v = false ∧ w = v := by
  rcases types.nested_cases t v with ⟨inner, d, rfl, nested⟩ | unnested
  · rw [bindSlot_of_nested nested] at made
    obtain ⟨bound, fields, result⟩ := bind_eq_ok.mp made
    cases result
    exact .inl ⟨inner, bound, d, rfl, rfl, nested, fields⟩
  · rw [bindSlot_of_unnested unnested] at made
    cases made
    refine .inr ⟨?_, rfl⟩
    cases v with
    | record inner => rw [binds, unnested inner rfl, Option.isSome_none]
    | _ => rfl

/-- What a bound record holds was stored there for a field that was given, or was there before. -/
theorem get?_bindFields {fields : List (String × Value)} {r : Record}
    (made : types.bindFields d r fields = .ok s) {name : String} {w : Value}
    (held : s.get? name = some w) :
    (∃ f v, d.field? name = some f ∧ (name, v) ∈ fields ∧ types.bindSlot f.type v = .ok w) ∨
      r.get? name = some w := by
  induction fields generalizing r with
  | nil =>
    rw [bindFields] at made
    cases made
    exact .inr held
  | cons field rest ih =>
    obtain ⟨first, v⟩ := field
    rw [bindFields] at made
    cases declared : d.field? first with
    | none =>
      rw [declared] at made
      cases made
    | some f =>
      rw [declared] at made
      obtain ⟨w', slot, made⟩ := bind_eq_ok.mp made
      rcases ih made with ⟨f', v', declared', given, slot'⟩ | before
      · exact .inl ⟨f', v', declared', List.mem_cons_of_mem _ given, slot'⟩
      · by_cases here : name = first
        · subst here
          rw [RecordOf.get?_put_self] at before
          cases before
          exact .inl ⟨f, v, declared, List.mem_cons_self, slot⟩
        · rw [RecordOf.get?_put_of_ne r w' here] at before
          exact .inr before

/-- A registered type takes the records that were bound to it. -/
theorem accepts_of_nestedType? {t : FieldType} {bound : Record}
    (nested : types.nestedType? t = some d) (shape : bound.shape = .typed d) :
    t.accepts (.record bound) = true := by
  cases t with
  | record name =>
    rw [nestedType?] at nested
    simp [FieldType.accepts, shape, Shape.name?, name_of_get? nested]
  | _ => cases nested

namespace BoundInside

variable {r' s' : Record}

/-- Every pair was bound to some type. -/
theorem exists_bindFields (made : types.bindFields d (.typed d) r.fields = .ok s)
    (inside : types.BoundInside r s r' s') :
    ∃ d', types.bindFields d' (.typed d') r'.fields = .ok s' := by
  cases inside with
  | whole => exact ⟨d, made⟩
  | field outer closed given held nested made' => exact ⟨_, made'⟩

/-- A field of a bound record was given a record that was bound, or holds what it was given. -/
theorem field_cases (made : types.bindFields d (.typed d) r.fields = .ok s)
    (inside : types.BoundInside r s r' s') {name : String} {w : Value}
    (held : s'.get? name = some w) :
    ∃ v, (name, v) ∈ r'.fields ∧
      ((∃ inner bound, v = .record inner ∧ w = .record bound ∧
          types.BoundInside r s inner bound ∧ types.binds (s'.declaredType name) v = true ∧
          (s'.declaredType name).accepts w = true) ∨
        types.binds (s'.declaredType name) v = false ∧ w = v) := by
  obtain ⟨d', made'⟩ := inside.exists_bindFields made
  have shape : s'.shape = .typed d' := shape_bindFields made'
  rcases get?_bindFields made' held with ⟨f, v, declared, given, slot⟩ | before
  · have type : s'.declaredType name = f.type := by
      simp only [RecordOf.declaredType, shape, declared, Option.map_some, Option.getD_some]
    refine ⟨v, given, ?_⟩
    rcases bindSlot_eq_ok slot with ⟨inner, bound, d'', rfl, rfl, nested, fields⟩ | kept
    · rw [type]
      refine .inl ⟨inner, bound, rfl, rfl, ?_, by rw [binds, nested]; rfl,
        accepts_of_nestedType? nested (shape_bindFields fields)⟩
      exact .field inside (by rw [RecordOf.descriptor?, shape]; rfl) given held
        (by rw [type, nested]) fields
    · exact .inr (by rwa [type])
  · cases before

/-- A record without declarations that stays as it is was not bound, and nothing inside it was. -/
theorem eq_of_open (free : r.descriptor? = none) (inside : types.BoundInside r r r' s') :
    r' = r ∧ s' = r := by
  induction inside with
  | whole => exact ⟨rfl, rfl⟩
  | field outer closed given held nested made ih =>
    rw [ih.2, free] at closed
    cases closed

end BoundInside

end TypeRegistry

/-! ## Coercing -/

/-- No standard converter gives a record. -/
theorem ConversionRegistry.standard_find_record (source : TypeKey) (name : String) :
    ((standard : ConversionRegistry Scoped).find source (.record (some name))).1 = none := by
  rw [Option.eq_none_iff_forall_ne_some]
  intro converter found
  obtain ⟨s, t, candidate, entry⟩ := lookup_of_find rfl found
  have record : ∃ name, t = .record name := by
    simp only [TypeKey.targetCandidates, List.mem_cons, List.not_mem_nil, or_false] at candidate
    rcases candidate with rfl | rfl
    · exact ⟨_, rfl⟩
    · exact ⟨_, rfl⟩
  obtain ⟨name, rfl⟩ := record
  simp [standard, add, store, lookup, empty] at entry

/-- Fits values by the standard converters and some types. -/
def TypeRegistry.fitting (types : TypeRegistry) : Coercer Scoped := .ofRegistries .standard types

namespace TypeRegistry

variable {types : TypeRegistry} {r : Record}

/-- A record without declarations that goes where a registered type is declared stays as it is, or
it is bound to the type. -/
theorem bound_of_fitting {name : String} (registered : types.contains name = true)
    (free : r.descriptor? = none) {w : Value} {scope scope' : Scope}
    (fitted : (types.fitting.coerce (.record r) (.record name)).run.run scope = (.ok w, scope')) :
    w = .record r ∨
      ∃ d s, types.bindFields d (.typed d) r.fields = .ok s ∧ w = .record s := by
  obtain ⟨d, found⟩ := Option.isSome_iff_exists.mp registered
  have bindable : bindable? false types (.record r) (.record name) = some d := by
    simp [bindable?, free, found]
  simp only [fitting, Coercer.ofRegistries, coerceWith, FieldType.key,
    ConversionRegistry.standard_find_record, Option.isSome_none, bindable] at fitted
  split at fitted
  · cases fitted
    exact .inl rfl
  · cases made : types.bind d (.record r) with
    | error e =>
      rw [made] at fitted
      cases fitted
    | ok bound =>
      rw [made] at fitted
      cases fitted
      obtain ⟨s, fields, result⟩ := bind_eq_ok.mp made
      cases result
      exact .inr ⟨d, s, fields, rfl⟩

/-- A field that is written by itself holds what its declared type takes. -/
theorem accepts_of_writeInto_field {name : String} {v after : Value} {scope scope' : Scope}
    (written : ((Path.ofProperty name).writeInto types.fitting (.record r) v).run scope =
      ((.ok (), after), scope')) :
    ∃ s x, after = .record s ∧ s.get? name = some x ∧ (s.declaredType name).accepts x = true := by
  obtain ⟨place, x, lands, fitted, rfl⟩ := Path.lands_of_writeInto written
  cases lands with
  | field =>
    exact ⟨r.put name x, x, rfl, RecordOf.get?_put_self r name x,
      accepts_of_coerceWith ConversionRegistry.Faithful.standard fitted⟩

/-- What a field of a bound record holds, for the record that it was bound from: the record that the
one given for the field was bound to, or what was given for it. -/
structure BoundField (types : TypeRegistry) (r s r' s' : Record) (field : String) (x v : Value) :
    Prop where
  given : (field, v) ∈ r'.fields
  /-- The declared type takes what is held exactly if it was bound, or the type takes what was
  given. -/
  accepted : (s'.declaredType field).accepts x = true ↔
    types.binds (s'.declaredType field) v = true ∨ (s'.declaredType field).accepts v = true
  kept : types.binds (s'.declaredType field) v = false → x = v
  bound : types.binds (s'.declaredType field) v = true → ∃ inner bound, v = .record inner ∧
    x = .record bound ∧ types.BoundInside r s inner bound

/-- Binding keeps what is no record to bind. Where a registered type is declared, a record without
declarations becomes a record; in it, and in every record that was bound on the way, a field holds
the record that the one given for it was bound to, or what was given for it. So its declared type
takes it exactly if it was bound or the type takes what was given. A field that is written by itself
always holds what its declared type takes. -/
theorem fitting_keeps_unbound (types : TypeRegistry) (name : String) (r : Record) (w : Value)
    (scope scope' : Scope) (registered : types.contains name = true)
    (free : r.descriptor? = none)
    (fitted : (types.fitting.coerce (.record r) (.record name)).run.run scope = (.ok w, scope')) :
    (∃ s, w = .record s ∧ ∀ r' s', types.BoundInside r s r' s' →
        ∀ field x, s'.get? field = some x → ∃ v, types.BoundField r s r' s' field x v) ∧
      ∀ (s : Record) (field : String) (v after : Value) (before later : Scope),
        ((Path.ofProperty field).writeInto types.fitting (.record s) v).run before =
            ((.ok (), after), later) →
          ∃ s' x, after = .record s' ∧ s'.get? field = some x ∧
            (s'.declaredType field).accepts x = true := by
  refine ⟨?_, fun s field v after _ _ written => accepts_of_writeInto_field written⟩
  rcases bound_of_fitting registered free fitted with rfl | ⟨d, s, made, rfl⟩
  · refine ⟨r, rfl, fun r' s' inside field x held => ?_⟩
    obtain ⟨rfl, rfl⟩ := inside.eq_of_open free
    have anything : RecordOf.declaredType s' field = .any := (RecordOf.takes_of_open free field).2.2
    have unbound : types.binds (RecordOf.declaredType s' field) x = false := by
      rw [anything]
      cases x <;> rfl
    exact ⟨x, Fields.mem_of_get? held, by simp [unbound], fun _ => rfl, by simp [unbound]⟩
  · refine ⟨s, rfl, fun r' s' inside field x held => ?_⟩
    obtain ⟨v, given, outcome⟩ := inside.field_cases made held
    refine ⟨v, ?_⟩
    rcases outcome with ⟨inner, bound, rfl, rfl, below, binds, accepted⟩ | ⟨unbound, rfl⟩
    · exact ⟨given, by simp [accepted, binds], by simp [binds],
        fun _ => ⟨inner, bound, rfl, rfl, below⟩⟩
    · exact ⟨given, by simp [unbound], fun _ => rfl, by simp [unbound]⟩

end TypeRegistry

namespace Shipment

/-- A person has a name. -/
def personType : TypeDescriptor := ⟨"Person", [⟨"name", .string, true⟩]⟩

/-- A parcel has a weight and a sender. -/
def weighedType : TypeDescriptor :=
  ⟨"Parcel", [⟨"weight", .integer, true⟩, ⟨"sender", .record "Person", true⟩]⟩

/-- Parcels and persons. -/
def parcelTypes : TypeRegistry := ⟨[weighedType, personType]⟩

/-- The sender of a parcel, not bound yet. -/
def looseSender : Record := ⟨.unnamed, [("name", .string "Ada")]⟩

/-- The sender as a person. -/
def boundSender : Record := ⟨.typed personType, [("name", .string "Ada")]⟩

/-- A parcel that is not bound yet, its weight as a text. -/
def looseParcel : Record := ⟨.unnamed, [("weight", .string "3"), ("sender", .record looseSender)]⟩

/-- The parcel bound: its weight still is a text. -/
def boundParcel : Record :=
  ⟨.typed weighedType, [("weight", .string "3"), ("sender", .record boundSender)]⟩

/-- The sender of a parcel is bound with the parcel. -/
theorem sender_bound_on_the_way :
    parcelTypes.contains "Parcel" = true ∧ looseParcel.descriptor? = none ∧
      (parcelTypes.fitting.coerce (.record looseParcel) (.record "Parcel")).run.run [] =
        (.ok (.record boundParcel), []) ∧
      parcelTypes.BoundInside looseParcel boundParcel looseSender boundSender := by
  have fitted : (parcelTypes.fitting.coerce (.record looseParcel) (.record "Parcel")).run.run [] =
      (.ok (.record boundParcel), []) := rfl
  refine ⟨rfl, rfl, fitted, ?_⟩
  obtain ⟨⟨s, result, fields⟩, -⟩ :=
    TypeRegistry.fitting_keeps_unbound parcelTypes "Parcel" looseParcel _ [] [] rfl rfl fitted
  cases result
  obtain ⟨v, field⟩ := fields _ _ .whole "sender" _ rfl
  have given : v = .record looseSender := by simpa [looseParcel] using field.given
  subst given
  obtain ⟨inner, bound, taken, became, inside⟩ := field.bound rfl
  cases taken
  cases became
  exact inside

/-- Bound as a whole, a parcel keeps a text where its weight is declared an integer; the weight
written by itself becomes an integer. -/
theorem bound_weight_stays_text :
    parcelTypes.contains "Parcel" = true ∧ looseParcel.descriptor? = none ∧
      (parcelTypes.fitting.coerce (.record looseParcel) (.record "Parcel")).run.run [] =
        (.ok (.record boundParcel), []) ∧
      boundParcel.get? "weight" = some (.string "3") ∧
      (boundParcel.declaredType "weight").accepts (.string "3") = false ∧
      ((Path.ofProperty "weight").writeInto parcelTypes.fitting (.record (.typed weighedType))
          (.string "3")).run [] =
        ((.ok (), .record ⟨.typed weighedType, [("weight", .integer ⟨3, by decide, by decide⟩)]⟩),
          []) :=
  ⟨rfl, rfl, rfl, rfl, rfl, rfl⟩

end Shipment

end Remap
