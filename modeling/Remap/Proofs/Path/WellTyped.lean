import Remap.Proofs.Model.WellTyped
import Remap.Proofs.Path.Outcome

/-!
# Writes and declared types

A write fits the value to the declared type of its place. What it creates on its way it creates for
the step that goes on from there: a list for a position, a record for a property. Whether the place
of a missing value is declared with something that takes a list or a record is not asked.

Main statement: a write that succeeds leaves a well-typed root exactly if everything that it created
fits the declared type of its place.
-/

namespace Remap

variable {σ : Type}

/-- What the coercer makes of a well-typed value for a declared type is well-typed and fits the
type, and so is the record that it creates for a record type. -/
structure Coercer.Typed (coercer : Coercer (StateM σ)) : Prop where
  coerce : ∀ v t s w s', v.WellTyped → (coercer.coerce v t).run.run s = (.ok w, s') →
    w.WellTyped ∧ t.accepts w = true
  instantiate : ∀ name, ∃ r : Record, coercer.instantiate (.record name) = .record r ∧
    (Value.record r).WellTyped ∧ (FieldType.record name).accepts (.record r) = true

/-- A strict coercer keeps to declared types. -/
theorem Coercer.typed_strict : (Coercer.strict : Coercer (StateM σ)).Typed where
  coerce v t s w s' typed fitted := by
    obtain ⟨rfl, accepted⟩ := eq_of_strict fitted
    exact ⟨typed, accepted⟩
  instantiate name := by
    refine ⟨.named name, rfl, .of_empty rfl, ?_⟩
    simp [FieldType.accepts, RecordOf.named, Shape.name?]

/-! ## Slots of well-typed values -/

namespace Value.WellTyped

variable {v w : Value} {s : Segment} {slot : Slot}

/-- A slot of a well-typed value holds a well-typed value that fits its declared type. -/
theorem of_slot? (typed : v.WellTyped) (found : v.slot? s = some slot) :
    slot.content.WellTyped ∧ slot.declared.accepts slot.content = true := by
  rcases slot?_cases found with ⟨r, name, rfl, rfl, -, rfl⟩ | ⟨items, position, rfl, rfl, -, rfl⟩
  · simp only [Path.fieldContent]
    cases content : r.get? name with
    | none => exact ⟨.null, FieldType.accepts_null _⟩
    | some w =>
      have member := Fields.mem_of_get? content
      exact ⟨typed.each_field _ member, typed.fits _ member⟩
  · refine ⟨?_, FieldType.accepts_any _⟩
    simp only [Path.itemContent]
    cases content : items[position]? with
    | none => exact .null
    | some w => exact typed.each_item w (List.mem_of_getElem? content)

/-- A well-typed value that fits the declared type of a slot may be stored there. -/
theorem putSlot (typed : v.WellTyped) (found : v.slot? s = some slot) (content : w.WellTyped)
    (accepted : slot.declared.accepts w = true) : (v.putSlot s w).WellTyped := by
  rcases slot?_cases found with ⟨r, name, rfl, rfl, -, rfl⟩ | ⟨items, position, rfl, rfl, -, rfl⟩
  · refine .record _ ?_ ?_
    · intro field member
      rcases Fields.mem_put member with rfl | old
      · exact accepted
      · exact typed.fits field old
    · intro field member
      rcases Fields.mem_put member with rfl | old
      · exact content
      · exact typed.each_field field old
  · refine .list _ ?_
    intro u member
    rcases Path.mem_setItem member with old | rfl | rfl
    · exact typed.each_item u old
    · exact .null
    · exact content

end Value.WellTyped

namespace Path

/-! ## What is created on the way -/

/-- What a write creates in the place of a missing value: the step that goes on from there, the
declared type of the place, and what was made for it. -/
structure Creation where
  next : Segment
  declared : FieldType
  made : Value

/-- A place of the declared type takes what the step needs. -/
def Creation.suits (c : Creation) : Bool :=
  match c.declared, c.next with
  | .any, _ => true
  | .list, .index _ => true
  | .record _, .property _ => true
  | _, _ => false

/-- The declared type takes what was made, and that is well-typed. -/
structure Creation.Sound (c : Creation) : Prop where
  accepted : c.declared.accepts c.made = true
  typed : c.made.WellTyped

/-- All that a write to the end of some steps creates on its way. -/
def creations (instantiate : FieldType → Value) : List Segment → Value → List Creation
  | s :: next :: more, v =>
    match v.slot? s with
    | none => []
    | some slot =>
      (if slot.content.isNull then
        [⟨next, slot.declared, intermediate instantiate next slot.declared⟩] else []) ++
        creations instantiate (next :: more)
          (entered instantiate slot.content next slot.declared)
  | _, _ => []

variable {instantiate : FieldType → Value} {segments more : List Segment} {s next : Segment}
  {root w : Value} {place : Place} {slot : Slot} {t : FieldType}

/-- What is created: something for the slot of the first step, if that holds null, and what further
steps need. -/
theorem forall_creations_cons {P : Creation → Prop} (found : root.slot? s = some slot) :
    (∀ c ∈ creations instantiate (s :: next :: more) root, P c) ↔
      (slot.content.isNull = true →
        P ⟨next, slot.declared, intermediate instantiate next slot.declared⟩) ∧
      ∀ c ∈ creations instantiate (next :: more)
        (entered instantiate slot.content next slot.declared), P c := by
  simp only [creations, found, List.forall_mem_append]
  cases slot.content.isNull with
  | true => simp
  | false => simp

/-- A type takes a value or not by its kind and its type name, and a store below the value leaves
both. -/
theorem Lands.accepts_store (lands : Lands instantiate segments root place) (t : FieldType)
    (w : Value) : t.accepts (place.store w) = t.accepts root := by
  cases lands with
  | field | item | underField | underItem => cases t <;> rfl

/-! ## A root that stays well-typed -/

/-- Further steps start from something sound, whether it was there or was created. -/
theorem sound_entered (typed : root.WellTyped) (found : root.slot? s = some slot)
    (sound : slot.content.isNull = true →
      Creation.Sound ⟨next, slot.declared, intermediate instantiate next slot.declared⟩) :
    (entered instantiate slot.content next slot.declared).WellTyped ∧
      slot.declared.accepts (entered instantiate slot.content next slot.declared) = true := by
  unfold entered
  split
  · next null => exact ⟨(sound null).typed, (sound null).accepted⟩
  · exact typed.of_slot? found

theorem Lands.wellTyped_store (lands : Lands instantiate segments root place)
    (typed : root.WellTyped) (sound : ∀ c ∈ creations instantiate segments root, c.Sound)
    (content : w.WellTyped) (accepted : place.declared.accepts w = true) :
    (place.store w).WellTyped := by
  induction lands using Lands.induction_on_slots with
  | here s root slot _ found => exact typed.putSlot found content accepted
  | under s next more root slot place _ found _ below ih =>
    obtain ⟨here, deeper⟩ := (forall_creations_cons found).mp sound
    obtain ⟨inside, fits⟩ := sound_entered typed found here
    refine typed.putSlot found (ih inside deeper accepted) ?_
    rw [below.accepts_store]
    exact fits

/-! ## What a well-typed root shows of the way -/

/-- What was created stands in its slot, with a value stored below it. -/
theorem accepted_of_putSlot (found : root.slot? s = some slot)
    (below : Lands instantiate (next :: more)
      (entered instantiate slot.content next slot.declared) place)
    (typed : (root.putSlot s (place.store w)).WellTyped) :
    (place.store w).WellTyped ∧ (slot.content.isNull = true →
      slot.declared.accepts (intermediate instantiate next slot.declared) = true) := by
  obtain ⟨inside, fits⟩ := typed.of_slot? (Value.slot?_putSlot_self found (place.store w))
  refine ⟨inside, fun null => ?_⟩
  rw [← entered_of_isNull null, ← below.accepts_store slot.declared w]
  exact fits

theorem Lands.accepted_of_wellTyped (lands : Lands instantiate segments root place)
    (typed : (place.store w).WellTyped) :
    ∀ c ∈ creations instantiate segments root, c.declared.accepts c.made = true := by
  induction lands using Lands.induction_on_slots with
  | here => exact List.forall_mem_nil _
  | under s next more root slot place _ found _ below ih =>
    obtain ⟨inside, here⟩ := accepted_of_putSlot found below typed
    exact (forall_creations_cons found).mpr ⟨here, ih inside⟩

/-! ## What suits a place -/

theorem Lands.made_eq (lands : Lands instantiate segments root place) :
    ∀ c ∈ creations instantiate segments root,
      c.made = intermediate instantiate c.next c.declared := by
  induction lands using Lands.induction_on_slots with
  | here => exact List.forall_mem_nil _
  | under s next more root slot place _ found _ below ih =>
    exact (forall_creations_cons found).mpr ⟨fun _ => rfl, ih⟩

section

variable {coercer : Coercer (StateM σ)} (typed : coercer.Typed)
include typed

/-- A type takes what is created for a step exactly if it suits the step. -/
theorem accepts_intermediate
    (lands : Lands coercer.instantiate (next :: more)
      (intermediate coercer.instantiate next t) place) (made : Value) :
    t.accepts (intermediate coercer.instantiate next t) = Creation.suits ⟨next, t, made⟩ := by
  cases next with
  | index position => cases t <;> rfl
  | property name =>
    -- The steps go on into a field, so what was created is a record.
    obtain ⟨r, record⟩ : ∃ r, coercer.instantiate t = .record r := by
      simp only [intermediate] at lands
      generalize coercer.instantiate t = v at lands
      cases lands with
      | field r | underField r => exact ⟨r, rfl⟩
    simp only [intermediate]
    cases t with
    | record type =>
      obtain ⟨s, made, -, accepted⟩ := typed.instantiate type
      rw [made, accepted]
      rfl
    | any =>
      rw [FieldType.accepts_any]
      rfl
    | boolean | integer | decimal | string | list =>
      rw [record]
      rfl

/-- The types of the places take what is created there exactly if they suit the steps. -/
theorem Lands.accepts_eq_suits (lands : Lands coercer.instantiate segments root place) :
    ∀ c ∈ creations coercer.instantiate segments root, c.declared.accepts c.made = c.suits := by
  induction lands using Lands.induction_on_slots with
  | here => exact List.forall_mem_nil _
  | under s next more root slot place _ found _ below ih =>
    refine (forall_creations_cons found).mpr ⟨fun null => ?_, ih⟩
    rw [entered_of_isNull null] at below
    exact accepts_intermediate typed below _

/-- What suits a place is well-typed, if what is created where anything goes is. -/
theorem wellTyped_intermediate (anything : (coercer.instantiate .any).WellTyped) {made : Value}
    (suits : Creation.suits ⟨next, t, made⟩ = true) :
    (intermediate coercer.instantiate next t).WellTyped := by
  cases next with
  | index position => exact .list [] (List.forall_mem_nil _)
  | property name =>
    cases t with
    | any => exact anything
    | record type =>
      obtain ⟨r, created, formed, -⟩ := typed.instantiate type
      simp only [intermediate, created]
      exact formed
    | boolean | integer | decimal | string | list => cases suits

/-- Creations that suit their places are sound. -/
theorem Lands.sound_of_suits (lands : Lands coercer.instantiate segments root place)
    (anything : (coercer.instantiate .any).WellTyped)
    (suits : ∀ c ∈ creations coercer.instantiate segments root, c.suits = true) :
    ∀ c ∈ creations coercer.instantiate segments root, c.Sound := by
  intro c member
  refine ⟨(lands.accepts_eq_suits typed c member).trans (suits c member), ?_⟩
  rw [lands.made_eq c member]
  exact wellTyped_intermediate typed anything (suits c member)

end

/-- A write leaves a well-typed root if all that it creates suits the places through which it goes,
and only then. Nothing but the value itself is fitted to a declared type: where a text is declared
and none is there, a path that goes on puts a record or a list in its place. -/
theorem wellTyped_writeInto (path : Path) (coercer : Coercer (StateM σ)) (typed : coercer.Typed)
    (root v after : Value) (s s' : σ) (rootTyped : root.WellTyped) (valueTyped : v.WellTyped)
    (written : (path.writeInto coercer root v).run s = ((.ok (), after), s')) :
    (after.WellTyped → ∀ c ∈ creations coercer.instantiate path.segments root, c.suits = true) ∧
    ((coercer.instantiate .any).WellTyped →
      (∀ c ∈ creations coercer.instantiate path.segments root, c.suits = true) →
        after.WellTyped) := by
  obtain ⟨place, w, lands, fitted, rfl⟩ := lands_of_writeInto written
  constructor
  · intro afterTyped c member
    rw [← lands.accepts_eq_suits typed c member]
    exact lands.accepted_of_wellTyped afterTyped c member
  · intro anything suits
    obtain ⟨content, accepted⟩ := typed.coerce v place.declared s w s' valueTyped fitted
    exact lands.wellTyped_store rootTyped (lands.sound_of_suits typed anything suits) content
      accepted

end Path

namespace Depot

/-- Takes what fits and keeps no state. -/
def strict : Coercer (StateM Unit) := .strict

/-- A shelf with a box that is labelled with a text. -/
def labelledTools : Value :=
  .record ⟨.typed shelfType, [("box", .record ⟨.named "Box", [("label", .string "tools")]⟩)]⟩

/-- A label of a box suits the box that is made for it: the shelf stays well-typed. -/
theorem label_suits :
    (boxLabel.writeInto strict shelf (.string "tools")).run () = ((.ok (), labelledTools), ()) ∧
      labelledTools.WellTyped := by
  have written : (boxLabel.writeInto strict shelf (.string "tools")).run () =
      ((.ok (), labelledTools), ()) := rfl
  have suits : ∀ c ∈ Path.creations strict.instantiate boxLabel.segments shelf,
      c.suits = true := by
    decide
  refine ⟨written, ?_⟩
  exact (Path.wellTyped_writeInto boxLabel strict Coercer.typed_strict shelf (.string "tools")
    labelledTools () () (.of_empty rfl) (.string "tools") written).2 (.of_empty rfl) suits

/-- An empty box. -/
def box : Value := .record (.typed boxType)

/-- The path to a part of the label of a box. -/
def labelPart : Path := ⟨"label.first", [.property "label", .property "first"]⟩

/-- A box with a record in the place of its label. -/
def brokenBox : Value :=
  .record ⟨.typed boxType, [("label", .record ⟨.unnamed, [("first", .string "A")]⟩)]⟩

/-- A box whose label was to be a text, and which gets a record for one. -/
theorem label_becomes_record :
    strict.Typed ∧ box.WellTyped ∧ (Value.string "A").WellTyped ∧
      (labelPart.writeInto strict box (.string "A")).run () = ((.ok (), brokenBox), ()) ∧
      ¬ brokenBox.WellTyped := by
  refine ⟨Coercer.typed_strict, .of_empty rfl, .string "A", rfl, ?_⟩
  intro typed
  have taken := typed.fits _ List.mem_cons_self
  cases taken

end Depot

end Remap
