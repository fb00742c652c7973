import Remap.Proofs.Definition.Layers
import Remap.Regex.Reader

/-!
# Foreseeing the copies by name

Which fields a pass copies by name is settled when the declared entries have run, but it can be
told before the pass. A field of the target is taken or refused by the shape of the target alone,
and no store at a path changes that shape.

Main statement: the entries foreseen for a source and a target are those that the results of the
pass report as found by name.
-/

namespace Remap

/-- The shape of a value that is a record. -/
def Value.rootShape? : Value → Option Shape
  | .record r => some r.shape
  | _ => none

/-- What is left of a value is a record of the same shape, or no record if it was none. -/
def Value.SameRoot (before after : Value) : Prop := after.rootShape? = before.rootShape?

theorem Value.SameRoot.refl (v : Value) : v.SameRoot v := rfl

theorem Value.SameRoot.trans (u v w : Value) (first : u.SameRoot v) (second : v.SameRoot w) :
    u.SameRoot w :=
  Eq.trans second first

/-- What is left of a record is a record of its shape. -/
theorem Value.SameRoot.exists_record {r : Record} {after : Value}
    (same : (Value.record r).SameRoot after) :
    ∃ s : Record, after = .record s ∧ s.shape = r.shape := by
  cases after with
  | record s => exact ⟨s, rfl, Option.some.inj same⟩
  | _ => cases same

theorem Path.Lands.sameRoot {instantiate : FieldType → Value} {segments : List Segment}
    {root : Value} {place : Place} (lands : Lands instantiate segments root place) (w : Value) :
    root.SameRoot (place.store w) := by
  cases lands with
  | field | item | underField | underItem => rfl

theorem Path.keeps_sameRoot (path : Path) : path.Keeps Value.SameRoot :=
  fun _ _ _ w lands => lands.sameRoot w

namespace FieldMapper

/-- The entries of a layered mapper leave the shape of the target. -/
theorem Layered.sameRoot [Regex.Engine] {m : FieldMapper} (layered : m.Layered)
    (source target : Value)
    (scope : Scope) : target.SameRoot (m.runDeclared source target scope).1.2 := by
  cases layered with
  | intro _ _ entries =>
    refine Pass.runEntries_keeps Value.SameRoot.refl Value.SameRoot.trans ?_
    intro e member
    exact (entries e member).keeps Value.SameRoot.refl Value.SameRoot.trans Path.keeps_sameRoot

/-- Whether a field can be written depends on the shape of the target alone. -/
theorem canTake_eq_of_sameRoot (m : FieldMapper) {before after : Value}
    (same : before.SameRoot after) (name : String) :
    copies.canTake m (View.ofValue before) after name =
      copies.canTake m (View.ofValue before) before name := by
  cases before with
  | record r =>
    cases after with
    | record s =>
      have shape : s.shape = r.shape := Option.some.inj same
      have accepts : s.accepts name = r.accepts name := by
        simp only [RecordOf.accepts, shape]
      have isWritable : s.isWritable name = r.isWritable name := by
        simp only [RecordOf.isWritable, shape]
      simp only [copies.canTake, View.ofValue, View.ofRecord, Path.isWritable, Path.ofProperty,
        Path.writable, accepts, isWritable]
    | _ => cases same
  | _ => rfl

/-- The entries that copy by name can be told from any target of the same shape. -/
theorem copies_eq_autoEntries {m : FieldMapper} (views : m.viewOf = View.ofValue) (source : Value)
    {target after : Value} (same : target.SameRoot after) :
    m.copies ((m.viewOf source).fieldNames source) (m.viewOf target) after =
      m.autoEntries source target := by
  have taken : copies.canTake m (View.ofValue target) after =
      copies.canTake m (View.ofValue target) target :=
    funext (m.canTake_eq_of_sameRoot same)
  simp only [autoEntries, copies, views, taken]

/-- The entries that a pass of a layered mapper finds by name can be told before the pass. -/
theorem Layered.found_eq_autoEntries [Regex.Engine] {m : FieldMapper} (layered : m.Layered)
    (source target : Value) (scope : Scope) :
    m.found source target scope = m.autoEntries source target := by
  have same := layered.sameRoot source target scope
  cases layered with
  | intro _ views _ => exact copies_eq_autoEntries views source same

/-- The labels of the results of a pass: those of the declared entries, and then those of the
entries found by name, which are marked. -/
theorem labels_run [Regex.Engine] (m : FieldMapper) (source target : Value) (scope : Scope) :
    ((m.run source target).run scope).1.1.map (fun r => (r.source, r.target, r.auto)) =
      m.entries.map (fun e => (e.sourceLabel, e.targetLabel, false)) ++
        (m.found source target scope).map fun e => (e.sourceLabel, e.targetLabel, true) := by
  rw [← Pass.labels_runEntries (m.passOver source) false m.entries target
      (scope.enter source.key.text),
    ← Pass.labels_runEntries (m.passOver source) true (m.found source target scope)
      (m.runDeclared source target scope).1.2 (m.runDeclared source target scope).2,
    ← List.map_append]
  rfl

/-- The results that are marked as found by name are those of the entries found by name. -/
theorem labels_filter_auto [Regex.Engine] (m : FieldMapper) (source target : Value)
    (scope : Scope) :
    (((m.run source target).run scope).1.1.filter (·.auto)).map (fun r => (r.source, r.target)) =
      (m.found source target scope).map fun e => (e.sourceLabel, e.targetLabel) := by
  have labels := congrArg (fun labels => (labels.filter (·.2.2)).map fun l => (l.1, l.2.1))
    (m.labels_run source target scope)
  have unmarked : m.entries.filter (fun _ => false) = [] :=
    List.filter_eq_nil_iff.mpr fun _ _ => Bool.false_ne_true
  have marked : (m.found source target scope).filter (fun _ => true) =
      m.found source target scope :=
    List.filter_eq_self.mpr fun _ _ => rfl
  simpa [List.filter_map, Function.comp_def, unmarked, marked] using labels

end FieldMapper

namespace Definition

/-- What a built mapper foresees is what it does: the entries that it tells before a pass to copy
by name are, in the same order, those that the results of the pass mark as found by name. -/
theorem autoEntries_foresee_results [Regex.Engine] (d : Definition) (m : FieldMapper)
    (built : d.build = .ok m) (source target : Value) (hasSource : source.isNull = false)
    (hasTarget : target.isNull = false) (scope : Scope) :
    ∃ results last scope',
      (m.mapWithResults source target).run scope = (.ok (results, last), scope') ∧
        (results.filter (·.auto)).map (fun r => (r.source, r.target)) =
          (m.autoEntries source target).map fun e => (e.sourceLabel, e.targetLabel) := by
  have labels := m.labels_filter_auto source target scope
  rw [(layered_of_build built).found_eq_autoEntries] at labels
  exact ⟨_, _, _, m.run_mapWithResults hasSource hasTarget scope, labels⟩

end Definition

namespace Shipment

/-- Hands the whole order to a definition inside, which hands it on to another one and copies what
it can, and then copies all but the date itself. -/
def booking : Definition where
  rules := [.multiSource ["date"] { rules := [.multiSource [] {} none] } none]

/-- The inner copies change the shipment, and still the outer ones are foreseen. -/
theorem booking_foresees_results :
    ∃ m, booking.build = .ok m ∧ order.isNull = false ∧ shipment.isNull = false ∧
      (m.autoEntries order shipment).map (fun e => (e.sourceLabel, e.targetLabel)) =
        [("port", "port"), ("cargo", "cargo")] ∧
      ∃ results last scope',
        (m.mapWithResults order shipment).run [] = (.ok (results, last), scope') ∧
          (results.filter (·.auto)).map (fun r => (r.source, r.target)) =
            (m.autoEntries order shipment).map fun e => (e.sourceLabel, e.targetLabel) :=
  ⟨_, rfl, rfl, rfl, rfl,
    Definition.autoEntries_foresee_results booking _ rfl order shipment rfl rfl []⟩

end Shipment

end Remap
