import Remap.Proofs.Model.WellFormed
import Remap.Proofs.Path.Slot

/-!
# Writes leave well-formed values

A write goes through records that take the names on its way, and creates only what the coercer makes
for it. So with a coercer that gives well-formed values it leaves a well-formed root, whatever its
verdict.
-/

namespace Remap

/-- From well-formed values the coercer makes well-formed ones. -/
structure Coercer.Sound (coercer : Coercer Scoped) : Prop where
  coerce : ∀ v t scope w scope', v.WellFormed →
    (coercer.coerce v t).run.run scope = (.ok w, scope') → w.WellFormed
  instantiate : ∀ t, (coercer.instantiate t).WellFormed

/-! ## Slots of well-formed values -/

namespace Value.WellFormed

variable {v w : Value} {s : Segment} {slot : Slot}

theorem of_slot? (formed : v.WellFormed) (found : v.slot? s = some slot) :
    slot.content.WellFormed := by
  rcases slot?_cases found with ⟨r, name, rfl, rfl, -, rfl⟩ | ⟨items, position, rfl, rfl, -, rfl⟩
  · exact .getD fun _ content => Record.WellFormed.of_get? formed content
  · exact .getD fun w content => formed.each_item w (List.mem_of_getElem? content)

theorem putSlot (formed : v.WellFormed) (found : v.slot? s = some slot) (content : w.WellFormed) :
    (v.putSlot s w).WellFormed := by
  rcases slot?_cases found with
    ⟨r, name, rfl, rfl, accepted, rfl⟩ | ⟨items, position, rfl, rfl, -, rfl⟩
  · exact Record.WellFormed.put formed accepted content
  · refine .list _ ?_
    intro u member
    rcases Path.mem_setItem member with old | rfl | rfl
    · exact formed.each_item u old
    · exact .null
    · exact content

end Value.WellFormed

namespace Path

variable {instantiate : FieldType → Value}

theorem wellFormed_entered (makes : ∀ t, (instantiate t).WellFormed) {content : Value}
    (formed : content.WellFormed) (next : Segment) (declared : FieldType) :
    (entered instantiate content next declared).WellFormed := by
  unfold entered
  split
  · cases next with
    | property name => exact makes declared
    | index position =>
      refine .list [] ?_
      intro v member
      cases member
  · exact formed

/-- A well-formed value stored where steps lead leaves the root well-formed. -/
theorem Lands.wellFormed_store (makes : ∀ t, (instantiate t).WellFormed) {segments : List Segment}
    {root : Value} {place : Place} (lands : Lands instantiate segments root place)
    (formed : root.WellFormed) {w : Value} (content : w.WellFormed) :
    (place.store w).WellFormed := by
  induction lands using Lands.induction_on_slots with
  | here s root slot _ found => exact formed.putSlot found content
  | under s next more root slot place _ found _ _ ih =>
    have inside := wellFormed_entered makes (formed.of_slot? found) next slot.declared
    exact formed.putSlot found (ih inside)

/-- A write leaves a well-formed root, also if it fails. -/
theorem wellFormed_writeInto {coercer : Coercer Scoped} (sound : coercer.Sound) (path : Path)
    {root v : Value} (formed : root.WellFormed) (content : v.WellFormed) (scope : Scope) :
    ((path.writeInto coercer root v).run scope).1.2.WellFormed := by
  rcases writeInto_cases path coercer root v with ⟨e, refused⟩ | ⟨place, lands, landed⟩
  · rw [refused]
    exact formed
  · rw [landed, storeFitted, Scoped.run_bind]
    cases fitting : (coercer.coerce v place.declared).run.run scope with
    | mk result after =>
      cases result with
      | ok w =>
        have fitted : w.WellFormed := sound.coerce v place.declared scope w after content fitting
        exact lands.wellFormed_store sound.instantiate formed fitted
      | error e => exact formed

end Path

end Remap
