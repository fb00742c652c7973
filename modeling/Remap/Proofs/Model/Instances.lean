import Mathlib.Data.List.Forall2
import Remap.Proofs.Model.Binding
import Remap.Proofs.Model.Untyped

/-!
# Instances of a type

A value that is bound to a type becomes an instance of it: a record is put together again, field by
field, under the descriptor of the type. Where no name occurs twice this loses nothing.

Main statement: an instance holds what the value held, in the same order, it is bound to the type
again without change, and the records in it that belong to registered types are bound to those.
-/

namespace Remap

namespace TypeRegistry

variable {types : TypeRegistry} {d : TypeDescriptor} {r s : Record}
  {fields bound : List (String × Value)}

/-! ## Fields -/

/-- A field that is given for a record becomes a field of the bound record: it keeps its name, and
the content is what the declared type makes of it. -/
structure Becomes (types : TypeRegistry) (d : TypeDescriptor) (given held : String × Value) :
    Prop where
  name : held.1 = given.1
  slot : ∃ f, d.field? given.1 = some f ∧ types.bindSlot f.type given.2 = .ok held.2

/-- Fields with new names are bound one by one and stand after what was there. -/
theorem bindFields_eq_ok_iff (new : (Fields.names r.fields ++ Fields.names fields).Nodup) :
    types.bindFields d r fields = .ok s ↔
      ∃ bound, s = ⟨r.shape, r.fields ++ bound⟩ ∧ List.Forall₂ (types.Becomes d) fields bound := by
  induction fields generalizing r with
  | nil =>
    rw [bindFields]
    simp [eq_comm]
  | cons field rest ih =>
    obtain ⟨name, v⟩ := field
    rw [bindFields]
    cases declared : d.field? name with
    | none =>
      constructor
      · intro refused
        cases refused
      · rintro ⟨_, -, slots⟩
        obtain ⟨_, _, ⟨-, f, found, -⟩, -⟩ := List.forall₂_cons_left_iff.mp slots
        cases declared.symm.trans found
    | some f =>
      have absent : name ∉ Fields.names r.fields := fun there =>
        (List.nodup_append.mp new).2.2 name there name List.mem_cons_self rfl
      have stored (w : Value) : r.put name w = ⟨r.shape, r.fields ++ [(name, w)]⟩ := by
        rw [RecordOf.put, Fields.put_of_not_mem absent]
      have later (w : Value) : (Fields.names (r.put name w).fields ++ Fields.names rest).Nodup := by
        rw [stored]
        simpa [Fields.names] using new
      simp only [bind_eq_ok, fun w => ih (later w)]
      simp only [stored, List.append_assoc, List.singleton_append]
      constructor
      · rintro ⟨w, slot, bound, rfl, slots⟩
        exact ⟨(name, w) :: bound, rfl, .cons ⟨rfl, f, declared, slot⟩ slots⟩
      · rintro ⟨_, rfl, slots⟩
        obtain ⟨⟨_, w⟩, bound, ⟨same, f', found, slot⟩, after, rfl⟩ :=
          List.forall₂_cons_left_iff.mp slots
        cases same
        cases declared.symm.trans found
        exact ⟨w, slot, bound, rfl, after⟩

/-- The fields of a record without repeated names are bound one by one. -/
theorem bindFields_typed_eq_ok_iff (distinct : Fields.Distinct fields) :
    types.bindFields d (.typed d) fields = .ok s ↔
      s.shape = .typed d ∧ List.Forall₂ (types.Becomes d) fields s.fields := by
  rw [bindFields_eq_ok_iff (r := .typed d) distinct]
  constructor
  · rintro ⟨bound, rfl, slots⟩
    exact ⟨rfl, slots⟩
  · rintro ⟨shape, slots⟩
    obtain ⟨_, bound⟩ := s
    cases shape
    exact ⟨bound, rfl, slots⟩

/-- A record in a field of a registered type becomes a record when its fields are bound. -/
theorem bindFields_of_bindSlot {t : FieldType} (nested : types.nestedType? t = some d)
    (slot : types.bindSlot t (.record r) = .ok (.record s)) :
    types.bindFields d (.typed d) r.fields = .ok s := by
  rw [bindSlot_of_nested nested] at slot
  obtain ⟨_, made, result⟩ := bind_eq_ok.mp slot
  cases result
  exact made

/-! ## Contents -/

/-- What a content becomes in a field: it holds the same but for types, no name in it occurs twice,
and the field takes it as it is. -/
structure Kept (types : TypeRegistry) (t : FieldType) (v w : Value) : Prop where
  same : w.untyped = v.untyped
  distinct : w.DistinctNames
  again : types.bindSlot t w = .ok w

/-- The fields that a record gets keep their names and contents, in their order. -/
theorem kept_of_forall₂ (becomes : List.Forall₂ (types.Becomes d) fields bound)
    (each : ∀ field ∈ fields, ∀ t w, types.bindSlot t field.2 = .ok w → types.Kept t field.2 w) :
    Fields.names bound = Fields.names fields ∧
      bound.map (fun field => (field.1, field.2.untyped)) =
        fields.map (fun field => (field.1, field.2.untyped)) ∧
      (∀ field ∈ bound, field.2.DistinctNames) ∧ ∀ field ∈ bound, types.Becomes d field field := by
  induction becomes with
  | nil => exact ⟨rfl, rfl, List.forall_mem_nil _, List.forall_mem_nil _⟩
  | @cons given held fields bound first _ ih =>
    obtain ⟨kept, later⟩ := List.forall_mem_cons.mp each
    obtain ⟨names, contents, distinct, again⟩ := ih later
    obtain ⟨name, f, declared, slot⟩ := first
    have content := kept f.type held.2 slot
    refine ⟨?_, ?_, List.forall_mem_cons.mpr ⟨content.distinct, distinct⟩,
      List.forall_mem_cons.mpr ⟨⟨rfl, f, name ▸ declared, content.again⟩, again⟩⟩
    · rw [Fields.names_cons, Fields.names_cons, name, names]
    · rw [List.map_cons, List.map_cons, name, content.same, contents]

/-- What is no record to bind stays. -/
theorem kept_of_unnested {t : FieldType} {v w : Value} (distinct : v.DistinctNames)
    (unnested : ∀ inner, v = .record inner → types.nestedType? t = none)
    (made : types.bindSlot t v = .ok w) : types.Kept t v w := by
  have stays := bindSlot_of_unnested unnested
  rw [stays] at made
  cases made
  exact ⟨rfl, distinct, stays⟩

/-- Contents without repeated names are kept in every field. -/
theorem kept_of_bindSlot {v : Value} (distinct : v.DistinctNames) :
    ∀ t w, types.bindSlot t v = .ok w → types.Kept t v w := by
  induction distinct with
  | record r once inside ih =>
    intro t w made
    rcases types.nested_cases t (.record r) with ⟨_, d, here, nested⟩ | unnested
    · cases here
      rw [bindSlot_of_nested nested] at made
      obtain ⟨s, fields, result⟩ := bind_eq_ok.mp made
      cases result
      obtain ⟨shape, becomes⟩ := (bindFields_typed_eq_ok_iff once).mp fields
      obtain ⟨names, contents, distinct, again⟩ := kept_of_forall₂ becomes ih
      have once' : Fields.Distinct s.fields := by rwa [Fields.Distinct, names]
      refine ⟨?_, .record s once' distinct, ?_⟩
      · rw [Value.untyped, Value.rebuild_record, Value.untyped, Value.rebuild_record]
        exact congrArg (fun fields => Value.record ⟨.unnamed, fields⟩) contents
      · have fixed : types.bindFields d (.typed d) s.fields = .ok s :=
          (bindFields_typed_eq_ok_iff once').mpr ⟨shape, List.forall₂_same.mpr again⟩
        rw [bindSlot_of_nested nested, fixed]
        rfl
    · exact kept_of_unnested (.record r once inside) unnested made
  | null => exact fun _ _ => kept_of_unnested .null nofun
  | boolean b => exact fun _ _ => kept_of_unnested (.boolean b) nofun
  | integer n => exact fun _ _ => kept_of_unnested (.integer n) nofun
  | decimal x => exact fun _ _ => kept_of_unnested (.decimal x) nofun
  | string s => exact fun _ _ => kept_of_unnested (.string s) nofun
  | list items each _ => exact fun _ _ => kept_of_unnested (.list items each) nofun

/-! ## Records in an instance -/

/-- The records in a record of a type that belong to a registered type, each after the descriptor of
its type: the record itself, and what such a record holds in a field of a registered type. -/
inductive Belongs (types : TypeRegistry) (d : TypeDescriptor) (s : Record) :
    TypeDescriptor → Record → Prop
  | whole : Belongs types d s d s
  | field {e e' : TypeDescriptor} {r inner : Record} {name : String} {f : FieldDescriptor}
      (outer : Belongs types d s e r) (held : (name, .record inner) ∈ r.fields)
      (declared : e.field? name = some f) (nested : types.nestedType? f.type = some e') :
      Belongs types d s e' inner

/-- A record that its own binding does not change has its type, and so have the records in it that
belong to registered types. -/
theorem Belongs.shape_eq (fixed : types.bindFields d (.typed d) s.fields = .ok s)
    (distinct : (Value.record s).DistinctNames) {e : TypeDescriptor} {r : Record}
    (belongs : types.Belongs d s e r) : r.shape = .typed e := by
  suffices invariant : types.bindFields e (.typed e) r.fields = .ok r ∧
      (Value.record r).DistinctNames from shape_bindFields invariant.1
  induction belongs with
  | whole => exact ⟨fixed, distinct⟩
  | @field e e' r inner name f outer held declared nested ih =>
    obtain ⟨fixed, distinct⟩ := ih
    have again := List.forall₂_same.mp ((bindFields_typed_eq_ok_iff distinct.once).mp fixed).2
    obtain ⟨-, f', found, slot⟩ := again _ held
    cases declared.symm.trans found
    exact ⟨bindFields_of_bindSlot nested slot, distinct.each_field _ held⟩

/-- A record goes to the type of a name as it goes to a field of that type. -/
theorem instantiate_record {name : String} (registered : types.get? name = some d) (r : Record) :
    types.instantiate name (.record r) = types.bindSlot (.record name) (.record r) := by
  rw [bindSlot_of_nested (t := .record name) registered, instantiate, registered]
  rfl

/-- Binding loses nothing. What a value without repeated names becomes under the type of a name is
equal to the value but for what records say about their types, and it is bound to the type again
without change. If the value is a record, all the records in its instance that belong to registered
types are bound to them. -/
theorem instantiate_keeps_contents (types : TypeRegistry) (name : String) (v w : Value)
    (distinct : v.DistinctNames) (made : types.instantiate name v = .ok w) :
    w.untyped = v.untyped ∧ types.instantiate name w = .ok w ∧
      ∀ r, v = .record r → ∃ d s, types.get? name = some d ∧ w = .record s ∧
        ∀ e inner, types.Belongs d s e inner → inner.shape = .typed e := by
  cases registered : types.get? name with
  | none =>
    rw [instantiate, registered] at made
    cases made
  | some d =>
    cases v with
    | null =>
      rw [instantiate, registered] at made
      cases made
      rw [instantiate, registered]
      exact ⟨rfl, rfl, nofun⟩
    | record r =>
      rw [instantiate_record registered] at made
      have kept := kept_of_bindSlot distinct _ _ made
      rw [bindSlot_of_nested (t := .record name) registered] at made
      obtain ⟨s, -, result⟩ := bind_eq_ok.mp made
      cases result
      have again := kept.again
      rw [← instantiate_record registered] at again
      refine ⟨kept.same, again, fun _ _ => ⟨d, s, rfl, rfl, fun e inner belongs => ?_⟩⟩
      have fixed := bindFields_of_bindSlot (t := .record name) registered kept.again
      exact belongs.shape_eq fixed kept.distinct
    | _ =>
      rw [instantiate, registered] at made
      cases made

end TypeRegistry

namespace Depot

/-- A crate has a weight, a maker, and a crate in it. -/
def crateType : TypeDescriptor :=
  ⟨"Crate", [⟨"weight", .integer, true⟩, ⟨"maker", .record "Firm", false⟩,
    ⟨"inside", .record "Crate", true⟩]⟩

/-- Crates; what makes them is not registered. -/
def crateTypes : TypeRegistry := ⟨[crateType]⟩

/-- A crate in a crate of another type, whose weight is a text. -/
def looseCrate : Record :=
  ⟨.named "Box", [("inside", .record ⟨.unnamed, [("weight", .null)]⟩), ("weight", .string "3"),
    ("maker", .record ⟨.unnamed, [("name", .string "Ada")]⟩)]⟩

/-- The crate inside, bound to its type. -/
def boundInside : Record := ⟨.typed crateType, [("weight", .null)]⟩

/-- The same crates bound to their type. -/
def boundCrate : Record :=
  ⟨.typed crateType, [("inside", .record boundInside), ("weight", .string "3"),
    ("maker", .record ⟨.unnamed, [("name", .string "Ada")]⟩)]⟩

theorem looseCrate_distinct : (Value.record looseCrate).DistinctNames := by
  refine .record _ (by decide) (List.forall_mem_cons.mpr ⟨?inside, List.forall_mem_cons.mpr
    ⟨.string "3", List.forall_mem_singleton.mpr ?maker⟩⟩)
  case inside => exact .record _ (by decide) (List.forall_mem_singleton.mpr .null)
  case maker => exact .record _ (by decide) (List.forall_mem_singleton.mpr (.string "Ada"))

/-- A crate becomes an instance of its type together with the crate in it. -/
theorem crate_bound_with_inside :
    (Value.record looseCrate).DistinctNames ∧
      crateTypes.instantiate "Crate" (.record looseCrate) = .ok (.record boundCrate) ∧
      (Value.record boundCrate).untyped = (Value.record looseCrate).untyped ∧
      crateTypes.instantiate "Crate" (.record boundCrate) = .ok (.record boundCrate) ∧
      crateTypes.Belongs crateType boundCrate crateType boundInside ∧
      boundInside.shape = .typed crateType := by
  have made : crateTypes.instantiate "Crate" (.record looseCrate) = .ok (.record boundCrate) := rfl
  obtain ⟨same, again, bound⟩ := TypeRegistry.instantiate_keeps_contents crateTypes "Crate" _ _
    looseCrate_distinct made
  obtain ⟨d, s, registered, result, shapes⟩ := bound looseCrate rfl
  cases result
  cases Option.some.inj (show some crateType = some d from registered)
  have belongs : crateTypes.Belongs crateType boundCrate crateType boundInside :=
    .field .whole List.mem_cons_self rfl rfl
  exact ⟨looseCrate_distinct, made, same, again, belongs, shapes _ _ belongs⟩

end Depot

end Remap
