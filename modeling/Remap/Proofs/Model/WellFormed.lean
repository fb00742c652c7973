import Remap.Mapping.Coercion
import Remap.Proofs.Fallible

/-!
# Well-formed values

The fields of a record are a plain list of pairs, and only the operations on records see to it that
no name stands there twice and that a record bound to a descriptor holds declared fields only. A
value is well-formed if all records in it, at any depth, are as they should be.

Main statements: well-formed values stay so when fields and items are stored or taken away, and
when they are bound to registered types.
-/

namespace Remap

/-! ## Tidy records -/

namespace RecordOf

variable {α : Type} {r : RecordOf α} {name : String}

/-- No field name occurs twice. A record that is bound to a descriptor carries its name and holds
declared fields only. -/
structure Tidy (r : RecordOf α) : Prop where
  distinct : Fields.Distinct r.fields
  typed : ∀ d, r.descriptor? = some d →
    r.typeName? = some d.name ∧ ∀ name ∈ Fields.names r.fields, (d.field? name).isSome = true

/-- A record that takes all the names it holds is tidy if it holds none twice. -/
theorem Tidy.of_accepts (distinct : Fields.Distinct r.fields)
    (accepted : ∀ name ∈ Fields.names r.fields, r.accepts name = true) : r.Tidy := by
  refine ⟨distinct, ?_⟩
  obtain ⟨shape, fields⟩ := r
  intro d bound
  cases shape with
  | unnamed | named => cases bound
  | typed descriptor =>
    cases bound
    exact ⟨rfl, accepted⟩

/-- A tidy record takes all the names it holds. -/
theorem Tidy.accepts (tidy : r.Tidy) (member : name ∈ Fields.names r.fields) :
    r.accepts name = true := by
  obtain ⟨shape, fields⟩ := r
  cases shape with
  | unnamed | named => rfl
  | typed d => exact (tidy.typed d rfl).2 name member

theorem Tidy.empty (empty : r.fields = []) : r.Tidy := by
  refine .of_accepts ?_ ?_
  · rw [empty]
    exact List.nodup_nil
  · intro name member
    rw [empty] at member
    cases member

theorem Tidy.put (tidy : r.Tidy) (accepted : r.accepts name = true) (a : α) :
    (r.put name a).Tidy := by
  refine .of_accepts (tidy.distinct.put name a) ?_
  intro other member
  change other ∈ Fields.names (Fields.put r.fields name a) at member
  rw [Fields.names_put] at member
  split at member
  · exact tidy.accepts member
  · rcases List.mem_append.mp member with old | new
    · exact tidy.accepts old
    · cases List.mem_singleton.mp new
      exact accepted

theorem Tidy.erase (tidy : r.Tidy) (name : String) : (r.erase name).Tidy := by
  have fewer : (Fields.names (r.erase name).fields).Sublist (Fields.names r.fields) :=
    List.Sublist.map Prod.fst (Fields.erase_sublist r.fields name)
  refine .of_accepts (tidy.distinct.sublist fewer) ?_
  intro other member
  exact tidy.accepts (fewer.mem member)

end RecordOf

/-! ## Well-formed values -/

/-- All records in the value are tidy. -/
inductive Value.WellFormed : Value → Prop
  | null : WellFormed .null
  | boolean (b : Bool) : WellFormed (.boolean b)
  | integer (n : Integer) : WellFormed (.integer n)
  | decimal (x : Float) : WellFormed (.decimal x)
  | string (s : String) : WellFormed (.string s)
  | list (items : List Value) (each : ∀ v ∈ items, WellFormed v) : WellFormed (.list items)
  | record (r : RecordOf Value) (tidy : r.Tidy)
      (each : ∀ field ∈ r.fields, WellFormed field.2) : WellFormed (.record r)

/-- The record is tidy and all its contents are well-formed. -/
def Record.WellFormed (r : Record) : Prop := (Value.record r).WellFormed

namespace Record.WellFormed

variable {r : Record} {name : String} {v : Value}

theorem tidy (formed : WellFormed r) : r.Tidy := by
  cases formed with
  | record _ tidy _ => exact tidy

theorem each (formed : WellFormed r) : ∀ field ∈ r.fields, field.2.WellFormed := by
  cases formed with
  | record _ _ each => exact each

theorem empty (empty : r.fields = []) : WellFormed r := by
  refine .record r (.empty empty) ?_
  intro field member
  rw [empty] at member
  cases member

theorem of_get? (formed : WellFormed r) (found : r.get? name = some v) : v.WellFormed :=
  formed.each (name, v) (Fields.mem_of_get? found)

theorem put (formed : WellFormed r) (accepted : r.accepts name = true) (content : v.WellFormed) :
    WellFormed (r.put name v) := by
  refine .record _ (formed.tidy.put accepted v) ?_
  intro field member
  rcases Fields.mem_put member with rfl | old
  · exact content
  · exact formed.each field old

/-- A field is stored, or refused and the record left as it was. -/
theorem insertIfAccepted (formed : WellFormed r) (name : String) (content : v.WellFormed) :
    WellFormed (r.insertIfAccepted name v) := by
  unfold RecordOf.insertIfAccepted
  split
  · next accepted => exact formed.put accepted content
  · exact formed

/-- An insertion leaves a well-formed record and gives back a well-formed content. -/
theorem insert (formed : WellFormed r) (content : v.WellFormed) {previous : Option Value}
    {after : Record} (done : r.insert name v = .ok (previous, after)) :
    WellFormed after ∧ ∀ w ∈ previous, w.WellFormed := by
  unfold RecordOf.insert at done
  split at done
  · next accepted =>
    cases done
    refine ⟨formed.put accepted content, ?_⟩
    intro w found
    exact formed.of_get? found
  · cases done

/-- Only a content that is there is replaced. -/
theorem replace (formed : WellFormed r) (name : String) (content : v.WellFormed) :
    WellFormed (r.replace name v).2 := by
  unfold RecordOf.replace
  split
  · next present =>
    refine formed.put ?_ content
    obtain ⟨w, found⟩ := Option.isSome_iff_exists.mp present
    exact formed.tidy.accepts (List.mem_map_of_mem (Fields.mem_of_get? found))
  · exact formed

theorem erase (formed : WellFormed r) (name : String) : WellFormed (r.erase name) := by
  refine .record _ (formed.tidy.erase name) ?_
  intro field member
  exact formed.each field ((Fields.erase_sublist r.fields name).mem member)

end Record.WellFormed

/-- The type takes neither lists nor records. -/
def FieldType.isScalar : FieldType → Bool
  | .boolean | .integer | .decimal | .string => true
  | .any | .list | .record _ => false

namespace Value.WellFormed

variable {v : Value}

theorem each_item {items : List Value} (formed : (Value.list items).WellFormed) :
    ∀ v ∈ items, v.WellFormed := by
  cases formed with
  | list _ each => exact each

/-- What was found is well-formed, and so is null in its place. -/
theorem getD {found : Option Value} (each : ∀ w ∈ found, w.WellFormed) :
    (found.getD .null).WellFormed := by
  cases found with
  | none => exact .null
  | some w => exact each w rfl

/-- A value that fits a scalar type holds no records. -/
theorem of_accepts {t : FieldType} (scalar : t.isScalar = true) (accepted : t.accepts v = true) :
    v.WellFormed := by
  cases v with
  | null => exact .null
  | boolean b => exact .boolean b
  | integer n => exact .integer n
  | decimal x => exact .decimal x
  | string s => exact .string s
  | list | record =>
    cases t with
    | any | list | record => cases scalar
    | boolean | integer | decimal | string => cases accepted

end Value.WellFormed

/-! ## Binding to registered types -/

namespace TypeRegistry

variable {types : TypeRegistry}

mutual

/-- Well-formed contents are bound into a well-formed record: each is stored under a declared
name. -/
theorem wellFormed_of_bindFields {d : TypeDescriptor} :
    ∀ {fields : List (String × Value)} {r bound : Record}, (∀ field ∈ fields, field.2.WellFormed) →
      Record.WellFormed r → r.shape = .typed d → types.bindFields d r fields = .ok bound →
        Record.WellFormed bound
  | [], r, bound, _, formed, _, result => by
    rw [bindFields] at result
    cases result
    exact formed
  | (name, v) :: rest, r, bound, each, formed, shape, result => by
    rw [bindFields] at result
    cases declaration : d.field? name with
    | none =>
      rw [declaration] at result
      cases result
    | some declared =>
      rw [declaration] at result
      obtain ⟨w, slot, result⟩ := bind_eq_ok.mp result
      have accepted : r.accepts name = true := by
        simp only [RecordOf.accepts, shape, declaration, Option.isSome_some]
      have content : w.WellFormed :=
        wellFormed_of_bindSlot (each (name, v) List.mem_cons_self) slot
      exact wellFormed_of_bindFields
        (fun field member => each field (List.mem_cons_of_mem _ member))
        (formed.put accepted content) shape result

theorem wellFormed_of_bindSlot {t : FieldType} :
    ∀ {v w : Value}, v.WellFormed → types.bindSlot t v = .ok w → w.WellFormed
  | .record ⟨shape, fields⟩, w, formed, result => by
    rw [bindSlot] at result
    split at result
    · next d _ =>
      obtain ⟨bound, fit, result⟩ := bind_eq_ok.mp result
      cases result
      exact wellFormed_of_bindFields (Record.WellFormed.each formed) (.empty rfl) rfl fit
    · cases result
      exact formed
  | .null, _, formed, result => Except.ok.inj result ▸ formed
  | .boolean _, _, formed, result => Except.ok.inj result ▸ formed
  | .integer _, _, formed, result => Except.ok.inj result ▸ formed
  | .decimal _, _, formed, result => Except.ok.inj result ▸ formed
  | .string _, _, formed, result => Except.ok.inj result ▸ formed
  | .list _, _, formed, result => Except.ok.inj result ▸ formed

end

theorem wellFormed_of_bind {d : TypeDescriptor} {v w : Value} (formed : v.WellFormed)
    (bound : types.bind d v = .ok w) : w.WellFormed := by
  cases v with
  | null =>
    cases bound
    exact .null
  | record r =>
    obtain ⟨s, fit, bound⟩ := bind_eq_ok.mp bound
    cases bound
    exact wellFormed_of_bindFields (Record.WellFormed.each formed) (.empty rfl) rfl fit
  | _ => cases bound

theorem wellFormed_of_instantiate {name : String} {v w : Value} (formed : v.WellFormed)
    (made : types.instantiate name v = .ok w) : w.WellFormed := by
  unfold instantiate at made
  split at made
  · cases made
  · exact wellFormed_of_bind formed made

theorem wellFormed_of_newRecord {name : String} {v : Value}
    (made : types.newRecord name = .ok v) : v.WellFormed := by
  unfold newRecord at made
  split at made
  · cases made
  · cases made
    exact Record.WellFormed.empty rfl

theorem wellFormed_emptyFor (types : TypeRegistry) (t : FieldType) :
    (types.emptyFor t).WellFormed := by
  unfold emptyFor
  split
  · split
    · exact Record.WellFormed.empty rfl
    · exact Record.WellFormed.empty rfl
  · exact Record.WellFormed.empty rfl

end TypeRegistry

end Remap
