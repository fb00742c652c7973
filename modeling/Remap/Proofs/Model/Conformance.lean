import Remap.Proofs.Model.Binding

/-!
# Records that conform to a type

A record conforms to a descriptor if all its fields are declared and each record that it holds in a
field of a registered type conforms to that type. A record may hold many fields that are not
declared, at several depths; `undeclared` lists them all, and binding stops at the first.

Main statement: a value is bound to a type exactly if the type is registered and the value is null
or a record that conforms to it. If it is not bound, the error says what stands in the way.
-/

namespace Remap

namespace TypeRegistry

/-- All fields are declared, and the records in fields of a registered type conform to it. -/
inductive Conforms (types : TypeRegistry) : TypeDescriptor → Record → Prop
  | of_fields {d : TypeDescriptor} {r : Record}
      (declared : ∀ field ∈ r.fields, ∃ f, d.field? field.1 = some f)
      (nested : ∀ field ∈ r.fields, ∀ f inner e, d.field? field.1 = some f →
        field.2 = .record inner → types.nestedType? f.type = some e → Conforms types e inner) :
      Conforms types d r

mutual
/-- The fields that are not declared where they stand, each after the name of the type that should
declare it. A field stands before those of the record that it holds, and these before the next
field. -/
def undeclared (types : TypeRegistry) (d : TypeDescriptor) :
    List (String × Value) → List (String × String)
  | [] => []
  | (name, v) :: rest =>
    match d.field? name with
    | none => (d.name, name) :: undeclared types d rest
    | some f => undeclaredInside types f.type v ++ undeclared types d rest

/-- The fields that are not declared in the content of a field. -/
def undeclaredInside (types : TypeRegistry) (t : FieldType) : Value → List (String × String)
  | .record ⟨_, fields⟩ =>
    match types.nestedType? t with
    | some d => undeclared types d fields
    | none => []
  | _ => []
end

variable {types : TypeRegistry} {d : TypeDescriptor} {t : FieldType} {v : Value}

theorem undeclaredInside_of_nested (nested : types.nestedType? t = some d) (inner : Record) :
    types.undeclaredInside t (.record inner) = types.undeclared d inner.fields := by
  obtain ⟨shape, fields⟩ := inner
  rw [undeclaredInside, nested]

theorem undeclaredInside_of_unnested
    (unnested : ∀ inner, v = .record inner → types.nestedType? t = none) :
    types.undeclaredInside t v = [] := by
  cases v with
  | record inner =>
    obtain ⟨shape, fields⟩ := inner
    rw [undeclaredInside, unnested _ rfl]
  | _ => rfl

/-! ## Nothing undeclared -/

theorem conforms_cons_iff {shape : Shape} {name : String} {rest : List (String × Value)} :
    types.Conforms d ⟨shape, (name, v) :: rest⟩ ↔
      (∃ f, d.field? name = some f ∧ ∀ inner e, v = .record inner →
          types.nestedType? f.type = some e → types.Conforms e inner) ∧
        types.Conforms d ⟨shape, rest⟩ := by
  constructor
  · rintro ⟨declared, nested⟩
    obtain ⟨f, found⟩ := declared (name, v) List.mem_cons_self
    refine ⟨⟨f, found, fun inner e => nested (name, v) List.mem_cons_self f inner e found⟩, ?_⟩
    exact .of_fields (fun field member => declared field (List.mem_cons_of_mem _ member))
      fun field member => nested field (List.mem_cons_of_mem _ member)
  · rintro ⟨⟨f, found, inside⟩, declared, nested⟩
    refine .of_fields (List.forall_mem_cons.mpr ⟨⟨f, found⟩, declared⟩)
      (List.forall_mem_cons.mpr ⟨?_, nested⟩)
    intro f' inner e found' here
    cases found.symm.trans found'
    exact inside inner e here

/-- A content has nothing undeclared in it if it is no record to bind, or a record that conforms. -/
theorem undeclaredInside_eq_nil_iff
    (inside : ∀ inner, v = .record inner → ∀ d,
      types.undeclared d inner.fields = [] ↔ types.Conforms d inner) :
    types.undeclaredInside t v = [] ↔
      ∀ inner e, v = .record inner → types.nestedType? t = some e → types.Conforms e inner := by
  rcases types.nested_cases t v with ⟨inner, e, rfl, nested⟩ | unnested
  · rw [undeclaredInside_of_nested nested, inside inner rfl e]
    constructor
    · intro conforms inner' e' here nested'
      cases here
      cases nested.symm.trans nested'
      exact conforms
    · intro conforms
      exact conforms inner e rfl nested
  · rw [undeclaredInside_of_unnested unnested, eq_self, true_iff]
    intro inner e here nested
    cases (unnested inner here).symm.trans nested

/-- A record conforms exactly if none of the fields in it is undeclared. -/
theorem undeclared_eq_nil_iff (r : Record) (d : TypeDescriptor) :
    types.undeclared d r.fields = [] ↔ types.Conforms d r := by
  obtain ⟨shape, fields⟩ := r
  induction fields using Fields.induction_on_records generalizing shape d with
  | nil =>
    rw [undeclared, eq_self, true_iff]
    exact .of_fields (List.forall_mem_nil _) (List.forall_mem_nil _)
  | cons name v rest inside later =>
    have within := fun t => undeclaredInside_eq_nil_iff (t := t) fun inner here d =>
      inside inner here d inner.shape
    rw [conforms_cons_iff, ← later d shape, undeclared]
    cases declared : d.field? name with
    | none => simp
    | some f => simp [within]

/-- An undeclared field is named together with a registered type that does not declare it. -/
theorem missing_of_mem_undeclared (fields : List (String × Value))
    (registered : types.get? d.name = some d) {entry : String × String}
    (member : entry ∈ types.undeclared d fields) :
    ∃ e, types.get? entry.1 = some e ∧ e.field? entry.2 = none := by
  induction fields using Fields.induction_on_records generalizing d with
  | nil =>
    rw [undeclared] at member
    cases member
  | cons name v rest inside later =>
    rw [undeclared] at member
    cases declared : d.field? name with
    | none =>
      rw [declared] at member
      rcases List.mem_cons.mp member with rfl | after
      · exact ⟨d, registered, declared⟩
      · exact later registered after
    | some f =>
      rw [declared] at member
      rcases List.mem_append.mp member with within | after
      · rcases types.nested_cases f.type v with ⟨inner, e, rfl, nested⟩ | unnested
        · rw [undeclaredInside_of_nested nested] at within
          exact inside inner rfl (get?_of_nestedType? nested) within
        · rw [undeclaredInside_of_unnested unnested] at within
          cases within
      · exact later registered after

/-! ## What binding makes of it -/

/-- A step succeeds if nothing was found, and fails with what was found first. -/
def StopsAtFirst {α : Type} (step : Except ModelError α) : List (String × String) → Prop
  | [] => ∃ a, step = .ok a
  | (type, field) :: _ => step = .error (.unknownField type field)

/-- Of two steps in a row the second one counts if nothing was found in the first one. -/
theorem StopsAtFirst.bind {α β : Type} {step : Except ModelError α}
    {next : α → Except ModelError β} {found later : List (String × String)}
    (first : StopsAtFirst step found)
    (second : ∀ a, StopsAtFirst (next a) later) : StopsAtFirst (step >>= next) (found ++ later) := by
  cases found with
  | nil =>
    obtain ⟨a, rfl⟩ := first
    exact second a
  | cons entry rest =>
    cases first
    rfl

/-- Binding stops at the first field that is not declared. -/
theorem stopsAtFirst_bindFields (fields : List (String × Value)) (d : TypeDescriptor) (r : Record) :
    StopsAtFirst (types.bindFields d r fields) (types.undeclared d fields) := by
  induction fields using Fields.induction_on_records generalizing d r with
  | nil =>
    rw [bindFields, undeclared]
    exact ⟨r, rfl⟩
  | cons name v rest inside later =>
    rw [bindFields, undeclared]
    cases declared : d.field? name with
    | none => rfl
    | some f =>
      have slot : StopsAtFirst (types.bindSlot f.type v) (types.undeclaredInside f.type v) := by
        rcases types.nested_cases f.type v with ⟨inner, e, rfl, nested⟩ | unnested
        · rw [bindSlot_of_nested nested, undeclaredInside_of_nested nested,
            ← List.append_nil (types.undeclared e inner.fields)]
          exact (inside inner rfl e (.typed e)).bind fun bound => ⟨.record bound, rfl⟩
        · rw [bindSlot_of_unnested unnested, undeclaredInside_of_unnested unnested]
          exact ⟨v, rfl⟩
      exact slot.bind fun w => later d (r.put name w)

/-- Binding a record to a type stops at the first field that is not declared. -/
theorem stopsAtFirst_bind (r : Record) (d : TypeDescriptor) :
    StopsAtFirst (types.bind d (.record r)) (types.undeclared d r.fields) := by
  rw [← List.append_nil (types.undeclared d r.fields)]
  exact (stopsAtFirst_bindFields r.fields d (.typed d)).bind fun bound => ⟨.record bound, rfl⟩

/-! ## Binding to the type of a name -/

/-- Why a value is not bound to the type of a name. -/
inductive Refused (types : TypeRegistry) (name : String) : Value → ModelError → Prop
  /-- The type itself is not registered. -/
  | unregistered (v : Value) (missing : types.get? name = none) :
      Refused types name v (.unknownType name)
  /-- The value itself is neither null nor a record. -/
  | mismatch (v : Value) (registered : types.contains name = true) (present : v ≠ .null)
      (other : ∀ r, v ≠ .record r) :
      Refused types name v (.typeMismatch ("record<" ++ name ++ ">") v.kind)
  /-- A field is not declared by the type where it stands, and it is the first such field. -/
  | undeclared (r : Record) (d e : TypeDescriptor) (type field : String)
      (registered : types.get? name = some d)
      (first : (types.undeclared d r.fields).head? = some (type, field))
      (lacking : types.get? type = some e) (lacks : e.field? field = none) :
      Refused types name (.record r) (.unknownField type field)

theorem instantiate_of_get? {name : String} (registered : types.get? name = some d) (v : Value) :
    types.instantiate name v = types.bind d v := by
  rw [instantiate, registered]

/-- A value is bound, or it is refused for a reason. -/
theorem instantiate_cases (types : TypeRegistry) (name : String) (v : Value) :
    (∃ w d, types.instantiate name v = .ok w ∧ types.get? name = some d ∧
        (v = .null ∨ ∃ r, v = .record r ∧ types.Conforms d r)) ∨
      ∃ e, types.instantiate name v = .error e ∧ types.Refused name v e := by
  cases registered : types.get? name with
  | none =>
    rw [instantiate, registered]
    exact .inr ⟨_, rfl, .unregistered v registered⟩
  | some d =>
    rw [instantiate_of_get? registered]
    have known : types.contains name = true := by rw [contains, registered, Option.isSome_some]
    cases v with
    | null => exact .inl ⟨.null, d, rfl, rfl, .inl rfl⟩
    | record r =>
      have stops := types.stopsAtFirst_bind r d
      cases found : types.undeclared d r.fields with
      | nil =>
        rw [found] at stops
        obtain ⟨w, made⟩ := stops
        exact .inl ⟨w, d, made, rfl, .inr ⟨r, rfl, (undeclared_eq_nil_iff r d).mp found⟩⟩
      | cons entry rest =>
        obtain ⟨type, field⟩ := entry
        rw [found] at stops
        have itself : types.get? d.name = some d := by rw [name_of_get? registered, registered]
        have member : (type, field) ∈ types.undeclared d r.fields := by
          rw [found]
          exact List.mem_cons_self
        obtain ⟨e, lacking, lacks⟩ := missing_of_mem_undeclared r.fields itself member
        exact .inr ⟨_, stops,
          .undeclared r d e type field registered (by rw [found]; rfl) lacking lacks⟩
    | _ =>
      rw [← name_of_get? registered]
      rw [← name_of_get? registered] at known
      exact .inr ⟨_, rfl, .mismatch _ known nofun nofun⟩

/-- A value that is refused for a reason is refused with its error. -/
theorem Refused.eq_of_instantiate {name : String} {e : ModelError}
    (refused : types.Refused name v e) : types.instantiate name v = .error e := by
  cases refused with
  | unregistered _ missing => rw [instantiate, missing]
  | mismatch _ registered present other =>
    obtain ⟨d, found⟩ := Option.isSome_iff_exists.mp registered
    rw [instantiate_of_get? found, ← name_of_get? found]
    cases v with
    | null => exact absurd rfl present
    | record r => exact absurd rfl (other r)
    | _ => rfl
  | undeclared r d e type field registered first lacking lacks =>
    rw [instantiate_of_get? registered]
    have stops := types.stopsAtFirst_bind r d
    obtain ⟨rest, found⟩ := List.head?_eq_some_iff.mp first
    rwa [found] at stops

/-- A value is bound to the type of a name exactly if the type is registered and the value is null
or a record that conforms to the type. A value that is not bound is refused with the one error that
says why: the type is not registered, the value is of another kind, or else the first field, depth
first, that the type where it stands does not declare. -/
theorem instantiate_iff_conforms (types : TypeRegistry) (name : String) (v : Value) :
    ((∃ w, types.instantiate name v = .ok w) ↔
        ∃ d, types.get? name = some d ∧ (v = .null ∨ ∃ r, v = .record r ∧ types.Conforms d r)) ∧
      ∀ e, types.instantiate name v = .error e ↔ types.Refused name v e := by
  refine ⟨⟨?_, ?_⟩, fun e => ⟨?_, Refused.eq_of_instantiate⟩⟩
  · rintro ⟨w, made⟩
    rcases types.instantiate_cases name v with ⟨_, d, _, bound⟩ | ⟨e, failed, _⟩
    · exact ⟨d, bound⟩
    · cases made.symm.trans failed
  · rintro ⟨d, registered, rfl | ⟨r, rfl, conforms⟩⟩
    · exact ⟨.null, instantiate_of_get? registered .null⟩
    · have stops := types.stopsAtFirst_bind r d
      rwa [(undeclared_eq_nil_iff r d).mpr conforms, ← instantiate_of_get? registered] at stops
  · intro failed
    rcases types.instantiate_cases name v with ⟨w, d, made, _⟩ | ⟨e', failed', refused⟩
    · cases made.symm.trans failed
    · cases failed'.symm.trans failed
      exact refused

/-- The lid in the box stands before the wheels of the shelf. -/
example :
    (⟨[⟨"Shelf", [⟨"box", .record "Box", true⟩]⟩, ⟨"Box", []⟩]⟩ : TypeRegistry).instantiate "Shelf"
        (.record ⟨.unnamed, [("box", .record ⟨.unnamed, [("lid", .null)]⟩), ("wheels", .null)]⟩) =
      .error (.unknownField "Box" "lid") := rfl

end TypeRegistry

end Remap
