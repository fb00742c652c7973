import Remap.Proofs.Mapping.Preview
import Remap.Regex.Reader

/-!
# Read-only fields

A record that is bound to a descriptor has fields that are not for mappings to write. A write is
refused at such a field and does not create it, but it may go through it to what stands inside.

Main statement: no pass of a built mapper replaces what a read-only field of the target holds,
whatever entries run, by themselves or inside nested mappers.
-/

namespace Remap

/-- The descriptor declares the field, and not for mappings to write. -/
def TypeDescriptor.IsReadOnly (d : TypeDescriptor) (name : String) : Prop :=
  ∃ f, d.field? name = some f ∧ f.writable = false

theorem RecordOf.isWritable_eq_false {α : Type} {r : RecordOf α} {d : TypeDescriptor}
    {name : String} (typed : r.shape = .typed d) (readOnly : d.IsReadOnly name) :
    r.isWritable name = false := by
  obtain ⟨f, found, closed⟩ := readOnly
  simp [isWritable, typed, found, closed]

/-- What is left of the content of a field that was not replaced. A missing field, null and a scalar
are the same as before; a list is still a list, and a record a record of the same type. -/
inductive Survives : Option Value → Option Value → Prop
  | same (content : Option Value) : Survives content content
  | list (before after : List Value) : Survives (some (.list before)) (some (.list after))
  | record (before after : Record) (type : after.typeName? = before.typeName?) :
      Survives (some (.record before)) (some (.record after))

theorem Survives.trans {a b c : Option Value} (first : Survives a b) (second : Survives b c) :
    Survives a c := by
  cases first with
  | same => exact second
  | list before after =>
    cases second with
    | same => exact .list before after
    | list _ last => exact .list before last
  | record before after type =>
    cases second with
    | same => exact .record before after type
    | record _ last type' => exact .record before last (type'.trans type)

/-- A record bound to a descriptor is left bound to it, and the contents of its read-only fields
survive. -/
def Value.SparesReadOnly (before after : Value) : Prop :=
  ∀ r d, before = .record r → r.shape = .typed d →
    ∃ s, after = .record s ∧ s.shape = .typed d ∧
      ∀ name, d.IsReadOnly name → Survives (r.get? name) (s.get? name)

theorem Value.SparesReadOnly.refl (v : Value) : v.SparesReadOnly v :=
  fun r _ equal typed => ⟨r, equal, typed, fun _ _ => .same _⟩

theorem Value.SparesReadOnly.trans (u v w : Value) (first : u.SparesReadOnly v)
    (second : v.SparesReadOnly w) : u.SparesReadOnly w := by
  intro r d equal typed
  obtain ⟨s, equal', typed', spared⟩ := first r d equal typed
  obtain ⟨t, equal'', typed'', spared'⟩ := second s d equal' typed'
  exact ⟨t, equal'', typed'', fun name readOnly =>
    (spared name readOnly).trans (spared' name readOnly)⟩

namespace Path

variable {instantiate : FieldType → Value} {segments : List Segment} {root : Value} {place : Place}

/-- A store below a value leaves it a list, or a record of its type. -/
theorem Lands.survives (lands : Lands instantiate segments root place) (w : Value) :
    Survives (some root) (some (place.store w)) := by
  cases lands with
  | field | underField => exact .record _ _ rfl
  | item | underItem => exact .list _ _

theorem get?_of_fieldContent {r : Record} {name : String}
    (present : (fieldContent r name).isNull = false) :
    r.get? name = some (fieldContent r name) := by
  unfold fieldContent at *
  cases found : r.get? name with
  | none =>
    rw [found] at present
    cases present
  | some content => rfl

/-- A store at the end of steps spares the read-only fields of the root. -/
theorem Lands.sparesReadOnly (lands : Lands instantiate segments root place) (w : Value) :
    root.SparesReadOnly (place.store w) := by
  intro r d equal typed
  cases lands with
  | item | underItem => cases equal
  | field r name accepted writable =>
    cases equal
    refine ⟨r.put name w, rfl, typed, fun other readOnly => ?_⟩
    have different : other ≠ name := by
      rintro rfl
      rw [RecordOf.isWritable_eq_false typed readOnly] at writable
      cases writable
    rw [RecordOf.get?_put_of_ne r w different]
    exact .same _
  | underField r name next more place accepted creatable below =>
    cases equal
    refine ⟨r.put name (place.store w), rfl, typed, fun other readOnly => ?_⟩
    by_cases through : other = name
    · subst through
      -- A read-only field is not created, so the write went on from what the field holds.
      have present : (fieldContent r other).isNull = false := by
        refine Bool.eq_false_iff.mpr fun null => ?_
        have writable := creatable null
        rw [RecordOf.isWritable_eq_false typed readOnly] at writable
        cases writable
      rw [entered_of_isNull_eq_false present] at below
      rw [RecordOf.get?_put_self, get?_of_fieldContent present]
      exact below.survives w
    · rw [RecordOf.get?_put_of_ne r _ through]
      exact .same _

theorem keeps_sparesReadOnly (path : Path) : path.Keeps Value.SparesReadOnly :=
  fun _ _ _ w lands => lands.sparesReadOnly w

end Path

namespace Definition

/-- Read-only fields survive every pass. If a built mapper maps onto a record that is bound to a
descriptor, the record stays bound to it, and a field that the descriptor declares read-only holds
afterwards what it held before: the same if that was nothing, null or a scalar, else still a list or
still a record of the same type. -/
theorem mapWithResults_spares_readOnly [Regex.Engine] (d : Definition) (m : FieldMapper)
    (built : d.build = .ok m) (source : Value) (hasSource : source.isNull = false) (target : Record)
    (t : TypeDescriptor) (typed : target.shape = .typed t) (scope : Scope) :
    ∃ results last scope',
      (m.mapWithResults source (.record target)).run scope = (.ok (results, .record last), scope') ∧
        last.shape = .typed t ∧
        ∀ name, t.IsReadOnly name → Survives (target.get? name) (last.get? name) := by
  obtain ⟨results, after, scope', ran, spared⟩ :=
    (layered_of_build built).mapWithResults_keeps Value.SparesReadOnly.refl
      Value.SparesReadOnly.trans Path.keeps_sparesReadOnly hasSource
      (show (Value.record target).isNull = false from rfl) scope
  obtain ⟨last, rfl, typed', survive⟩ := spared target t rfl typed
  exact ⟨results, last, scope', ran, typed', survive⟩

end Definition

namespace Shipment

/-- The type of a shipment whose port is settled. -/
def settled : TypeDescriptor :=
  ⟨"Shipment", [⟨"port", .string, false⟩, ⟨"cargo", .any, true⟩, ⟨"date", .any, true⟩]⟩

/-- A shipment that goes to Sydney for good and has no cargo yet. -/
def settledShipment : Record := ⟨.typed settled, [("port", .string "Sydney")]⟩

/-- An order for another port is booked in nested passes, which bring in the cargo and leave the
port. -/
theorem booking_spares_settled_port :
    ∃ m, booking.build = .ok m ∧ order.isNull = false ∧
      settledShipment.shape = .typed settled ∧ settled.IsReadOnly "port" ∧
      ∃ results last scope',
        (m.mapWithResults order (.record settledShipment)).run [] =
            (.ok (results, .record last), scope') ∧
          last.shape = .typed settled ∧
          ∀ name, settled.IsReadOnly name →
            Survives (settledShipment.get? name) (last.get? name) :=
  ⟨_, rfl, rfl, rfl, ⟨_, rfl, rfl⟩,
    Definition.mapWithResults_spares_readOnly booking _ rfl order rfl settledShipment settled rfl
      []⟩

end Shipment

end Remap
