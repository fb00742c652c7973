import Remap.Proofs.Path.Frame

/-!
# What a write comes to

A write comes to one of two things: it fails, or the value stands at the end of the steps as it was
fitted to the declared type of its place. The coercer may keep a state of its own, of any type.

Main statements: a write that fails leaves the root as it was, and what a write has stored can be
read back.
-/

namespace Remap

variable {σ : Type}

/-- A strict coercer takes a value that fits as it is. -/
theorem Coercer.eq_of_strict {v w : Value} {t : FieldType} {s s' : σ}
    (fitted : ((Coercer.strict : Coercer (StateM σ)).coerce v t).run.run s = (.ok w, s')) :
    w = v ∧ t.accepts v = true := by
  simp only [strict] at fitted
  split at fitted
  · next accepted =>
    cases fitted
    exact ⟨rfl, accepted⟩
  · cases fitted

namespace Path

/-- The declared type of the place that steps lead to in a value, if they lead to one. -/
def declaredType? : List Segment → Value → Option FieldType
  | [], _ => none
  | [s], v => (v.slot? s).map (·.declared)
  | s :: next :: more, v => (v.held? s).bind (declaredType? (next :: more))

/-- Where a value was stored, the declared type of the place is the one that it was stored for. -/
theorem Lands.declaredType?_store {instantiate : FieldType → Value} {segments : List Segment}
    {root : Value} {place : Place} (lands : Lands instantiate segments root place) (w : Value) :
    declaredType? segments (place.store w) = some place.declared := by
  induction lands using Lands.induction_on_slots with
  | here s root slot _ found =>
    rw [declaredType?, Value.slot?_putSlot_self found w]
    rfl
  | under s next more root slot place _ found _ below ih =>
    rw [declaredType?, Value.held?_putSlot_self found, Option.bind_some]
    exact ih

/-- What a fitting and a store come to in a state. -/
theorem run_storeFitted (coercer : Coercer (StateM σ)) (declared : FieldType)
    (store : Value → Value) (current v : Value) (s : σ) :
    (storeFitted coercer declared store current v).run s =
      match (coercer.coerce v declared).run.run s with
      | (.ok w, s') => ((.ok (), store w), s')
      | (.error e, s') => ((.error e, current), s') := by
  unfold storeFitted
  rw [StateT.run_bind]
  cases (coercer.coerce v declared).run.run s with
  | mk result s' => cases result <;> rfl

/-- A write fails and leaves the root as it was, or it fits the value to the declared type of the
place that the steps lead to and stores it there. -/
theorem run_writeInto_cases (path : Path) (coercer : Coercer (StateM σ)) (root v : Value) (s : σ) :
    (∃ e s', (path.writeInto coercer root v).run s = ((.error e, root), s')) ∨
      ∃ place w s', Lands coercer.instantiate path.segments root place ∧
        (coercer.coerce v place.declared).run.run s = (.ok w, s') ∧
        (path.writeInto coercer root v).run s = ((.ok (), place.store w), s') := by
  rcases writeInto_cases path coercer root v with ⟨e, refused⟩ | ⟨place, lands, landed⟩
  · exact .inl ⟨e, s, by rw [refused]; rfl⟩
  · rw [landed, run_storeFitted]
    cases fitting : (coercer.coerce v place.declared).run.run s with
    | mk result s' =>
      cases result with
      | error e => exact .inl ⟨e, s', rfl⟩
      | ok w => exact .inr ⟨place, w, s', lands, fitting, rfl⟩

/-- A write that succeeds has stored the fitted value at the place that the steps lead to. -/
theorem lands_of_writeInto {path : Path} {coercer : Coercer (StateM σ)} {root v after : Value}
    {s s' : σ} (written : (path.writeInto coercer root v).run s = ((.ok (), after), s')) :
    ∃ place w, Lands coercer.instantiate path.segments root place ∧
      (coercer.coerce v place.declared).run.run s = (.ok w, s') ∧ after = place.store w := by
  rcases run_writeInto_cases path coercer root v s with
    ⟨e, s'', failed⟩ | ⟨place, w, s'', lands, fitted, stored⟩
  · rw [failed] at written
    cases written
  · rw [stored] at written
    cases written
    exact ⟨place, w, lands, fitted, rfl⟩

/-- A write that fails is without effect on the root. Nothing that was created on the way is
attached, no list has grown and no field was added, at whatever step and for whatever cause the
write failed. -/
theorem root_eq_of_failed_writeInto (path : Path) (coercer : Coercer (StateM σ))
    (root v after : Value) (s s' : σ) (e : EvalError)
    (failed : (path.writeInto coercer root v).run s = ((.error e, after), s')) : after = root := by
  rcases run_writeInto_cases path coercer root v s with
    ⟨e', s'', unchanged⟩ | ⟨place, w, s'', lands, fitted, stored⟩
  · rw [unchanged] at failed
    cases failed
    rfl
  · rw [stored] at failed
    cases failed

/-- What a write has stored is read back: what the coercer makes of the value for the declared type
of the place. A strict coercer makes nothing else of it. -/
theorem read_of_writeInto (path : Path) (coercer : Coercer (StateM σ)) (root v after : Value)
    (s s' : σ) (written : (path.writeInto coercer root v).run s = ((.ok (), after), s')) :
    ∃ t w, declaredType? path.segments after = some t ∧
      (coercer.coerce v t).run.run s = (.ok w, s') ∧ path.read after = .ok w ∧
      (coercer = .strict → w = v) := by
  obtain ⟨place, w, lands, fitted, rfl⟩ := lands_of_writeInto written
  refine ⟨place.declared, w, lands.declaredType?_store w, fitted, (lands.holds_store w).read, ?_⟩
  rintro rfl
  exact (Coercer.eq_of_strict fitted).1

end Path

/-! ## Shelves -/

namespace Depot

/-- A box has a label. -/
def boxType : TypeDescriptor := ⟨"Box", [⟨"label", .string, true⟩]⟩

/-- A shelf has a box and rows. -/
def shelfType : TypeDescriptor := ⟨"Shelf", [⟨"box", .record "Box", true⟩, ⟨"rows", .list, true⟩]⟩

/-- An empty shelf. -/
def shelf : Value := .record (.typed shelfType)

/-- Makes boxes, writes flags out, takes what fits as it is, and counts how often it is asked. -/
def labeller : Coercer (StateM Nat) where
  coerce v t := do
    modify (· + 1)
    match v, t with
    | .boolean b, .string => return .string (if b then "yes" else "no")
    | v, t => Coercer.strict.coerce v t
  instantiate
    | .record "Box" => .record (.typed boxType)
    | t => t.emptyRecord

/-- The path to the label of the box on a shelf. -/
def boxLabel : Path := ⟨"box.label", [.property "box", .property "label"]⟩

/-- The path to the last cell, and one further, of the third row of a shelf. -/
def farCell : Path :=
  ⟨"rows[2].cells[10000]", [.property "rows", .index 2, .property "cells", .index 10000]⟩

/-- The number seven. -/
def seven : Value := .integer ⟨7, by decide, by decide⟩

/-- A label that is a number is refused after the box was made, and a cell out of reach after the
rows, the third of them and its cells were made: the shelf stays empty. -/
theorem shelf_kept :
    (∃ after, (boxLabel.writeInto labeller shelf seven).run 0 =
      ((.error (.conversion "integer" "string" "no conversion available"), after), 1) ∧
        after = shelf) ∧
    ∃ after, (farCell.writeInto labeller shelf (.string "bolt")).run 0 =
      ((.error (.indexOutOfBounds 10000 0), after), 0) ∧ after = shelf := by
  refine ⟨⟨_, rfl, ?_⟩, ⟨_, rfl, ?_⟩⟩
  · exact Path.root_eq_of_failed_writeInto boxLabel labeller shelf seven _ 0 1 _ rfl
  · exact Path.root_eq_of_failed_writeInto farCell labeller shelf (.string "bolt") _ 0 0 _ rfl

/-- A shelf with a box that is labelled with a flag. -/
def flagged : Value :=
  .record ⟨.typed shelfType, [("box", .record ⟨.typed boxType, [("label", .string "yes")]⟩)]⟩

/-- A flag that is written to the label of a box is read back as text. -/
theorem label_read_back :
    (boxLabel.writeInto labeller shelf (.boolean true)).run 0 = ((.ok (), flagged), 1) ∧
      ∃ t w, Path.declaredType? boxLabel.segments flagged = some t ∧
        (labeller.coerce (.boolean true) t).run.run 0 = (.ok w, 1) ∧ boxLabel.read flagged = .ok w ∧
        (labeller = .strict → w = .boolean true) := by
  have written : (boxLabel.writeInto labeller shelf (.boolean true)).run 0 =
      ((.ok (), flagged), 1) := rfl
  exact ⟨written,
    Path.read_of_writeInto boxLabel labeller shelf (.boolean true) flagged 0 1 written⟩

end Depot

end Remap
