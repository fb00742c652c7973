import Remap.Proofs.Mapping.Claims
import Remap.Proofs.Mapping.Preview
import Remap.Regex.Reader

/-!
# Every field is taken care of once

Once the declared entries have run, a pass copies by name what they leave. `FieldMapper.Copies`
says which fields these are: each field that is neither excluded nor claimed and that the target
takes as it then is, in the order of the source and none of them twice. Whether there is anything
to take them is decided by the target that was given, before the entries ran: only a record is.

Main statement: a pass copies these fields and no others, and the claims that keep a field from
being copied are the right ones.
-/

namespace Remap

namespace Pass

/-- The results of the steps are marked as found by name, or none is. -/
theorem auto_of_mem_steps [Regex.Engine] {pass : Pass} {auto : Bool} {entries : List Entry}
    {target : Value} {scope : Scope} {step : Step}
    (member : step ∈ pass.steps auto entries target scope) :
    step.result.auto = auto := by
  induction entries generalizing target scope with
  | nil => cases member
  | cons e rest ih =>
    obtain rfl | later := List.mem_cons.1 member
    · rfl
    · exact ih later

end Pass

/-- Copies of different fields differ. -/
theorem Entry.copy_injective : Function.Injective Entry.copy := by
  intro name other same
  have roots := congrArg (fun e => e.action.path?.bind Path.rootProperty?) same
  exact Option.some.inj roots

namespace FieldMapper

/-- The steps that are marked as found by name are those of the entries found by name. -/
theorem entries_filter_auto [Regex.Engine] (m : FieldMapper) (source target : Value)
    (scope : Scope) : ((m.steps source target scope).filter (·.result.auto)).map (·.entry) =
      m.found source target scope := by
  have declared : ((m.passOver source).steps false m.entries target
      (scope.enter source.key.text)).filter (·.result.auto) = [] := by
    rw [List.filter_eq_nil_iff]
    intro step member
    rw [Pass.auto_of_mem_steps member]
    exact Bool.false_ne_true
  have copied : ((m.passOver source).steps true (m.found source target scope)
      (m.runDeclared source target scope).1.2
      (m.runDeclared source target scope).2).filter (·.result.auto) = _ :=
    List.filter_eq_self.2 fun step member => Pass.auto_of_mem_steps member
  rw [steps, List.filter_append, declared, copied, List.nil_append, Pass.map_entry_steps]

theorem leaves_iff {m : FieldMapper} {name : String} :
    m.leaves name = true ↔ name ∉ m.excluded ∧ ∀ e ∈ m.entries, e.claims name = false := by
  simp [leaves]

theorem canTake_iff {m : FieldMapper} {view : View} {target : Value} {name : String} :
    copies.canTake m view target name = true ↔
      view.isWritable target (.ofProperty name) m.coercer.instantiate = .ok true := by
  unfold copies.canTake
  cases view.isWritable target (.ofProperty name) m.coercer.instantiate with
  | ok writable => simp
  | error e => simp

/-- The fields to copy by name onto a target that was given and has come to be `current`. -/
structure Copies (m : FieldMapper) (source given current : Value) (copied : List String) :
    Prop where
  /-- They come in the order of the source. -/
  ordered : copied.Sublist ((View.ofValue source).fieldNames source)
  /-- None comes twice. -/
  once : copied.Nodup
  /-- They are those that are not excluded and not claimed, and that can be written on the target
  as it is now, if it was given as a record. -/
  mem_iff : ∀ name, name ∈ copied ↔
    m.autoMapping = true ∧ name ∈ (View.ofValue source).fieldNames source ∧ name ∉ m.excluded ∧
      (∀ e ∈ m.entries, e.claims name = false) ∧ (∃ r, given = .record r) ∧
      (Path.ofProperty name).isWritable m.coercer.instantiate current = .ok true

/-- The view of a record asks the path to a field, and any other view refuses. -/
theorem isWritable_view_iff (m : FieldMapper) (given current : Value) (name : String) :
    (View.ofValue given).isWritable current (.ofProperty name) m.coercer.instantiate = .ok true ↔
      (∃ r, given = .record r) ∧
        (Path.ofProperty name).isWritable m.coercer.instantiate current = .ok true := by
  cases given with
  | record r => exact (and_iff_right ⟨r, rfl⟩).symm
  | _ => exact iff_of_false nofun fun ⟨⟨_, record⟩, _⟩ => nomatch record

/-- The entries that copy by name copy the fields that are to be copied. -/
theorem exists_copies (m : FieldMapper) {source : Value}
    (distinct : ((View.ofValue source).fieldNames source).Nodup) (given current : Value) :
    ∃ copied,
      m.copies ((View.ofValue source).fieldNames source) (View.ofValue given) current =
          copied.map Entry.copy ∧
        m.Copies source given current copied := by
  rw [copies]
  by_cases automatic : m.autoMapping = true
  · rw [if_pos automatic]
    refine ⟨_, rfl, List.filter_sublist, distinct.filter _, fun name => ?_⟩
    rw [List.mem_filter, Bool.and_eq_true, leaves_iff, canTake_iff, isWritable_view_iff, and_assoc]
    exact (and_iff_right automatic).symm
  · rw [if_neg automatic]
    refine ⟨[], rfl, List.nil_sublist _, List.nodup_nil, fun name => ?_⟩
    simp [automatic]

/-- A field can be written only on a record. -/
theorem exists_record_of_isWritable {instantiate : FieldType → Value} {v : Value} {name : String}
    (writable : (Path.ofProperty name).isWritable instantiate v = .ok true) :
    ∃ r, v = .record r := by
  cases v with
  | record r => exact ⟨r, rfl⟩
  | _ => cases writable

/-- The entries of a layered mapper leave a record only where there was one. -/
theorem Layered.exists_record [Regex.Engine] {m : FieldMapper} (layered : m.Layered)
    {source target : Value} {scope : Scope} {r : Record}
    (left : (m.runDeclared source target scope).1.2 = .record r) : ∃ s, target = .record s := by
  have same := layered.sameRoot source target scope
  rw [left] at same
  exact (Value.SameRoot.exists_record same.symm).imp fun _ record => record.1

/-- Every field of the source is taken care of once. A pass copies by name, in their order and each
of them once, the fields that are neither excluded nor claimed and that can be written on the
target as the declared entries left it; there are none for a target that was given as something
else than a record, which the entries of a layered mapper do not make one. The copies foreseen are
those for the target as it was given. A field is claimed by every entry with a source expression
that stands for it, however it is written, and by a group if it is what the group gathers. -/
theorem mapWithResults_handles_once [Regex.Engine] (m : FieldMapper)
    (views : m.viewOf = View.ofValue) (source target : Value) (hasSource : source.isNull = false)
    (hasTarget : target.isNull = false) (distinct : ((View.ofValue source).fieldNames source).Nodup)
    (scope : Scope) :
    (∃ last scope' copied,
      (m.mapWithResults source target).run scope =
          (.ok ((m.steps source target scope).map (·.result), last), scope') ∧
        ((m.steps source target scope).filter (·.result.auto)).map (·.entry) =
          copied.map Entry.copy ∧
        m.Copies source target (m.runDeclared source target scope).1.2 copied) ∧
      (m.Layered → ∀ name, (Path.ofProperty name).isWritable m.coercer.instantiate
          (m.runDeclared source target scope).1.2 = .ok true → ∃ r, target = .record r) ∧
      (∃ foreseen, m.autoEntries source target = foreseen.map Entry.copy ∧
        m.Copies source target target foreseen) ∧
      (∀ e : Entry, e.Faithful) ∧
      ∀ name text, Expression.Writes name text →
        ∃ e, Expression.parse text = .ok e ∧ e.tree = .property name := by
  obtain ⟨last, scope', ran, -⟩ := m.run_leads source target scope
  obtain ⟨copied, found, copies⟩ :=
    m.exists_copies distinct target (m.runDeclared source target scope).1.2
  obtain ⟨foreseen, told, foretold⟩ := m.exists_copies distinct target target
  refine ⟨⟨last, scope'.leave, copied, ?_, ?_, copies⟩, ?_, ⟨foreseen, ?_, foretold⟩,
    Entry.faithful, fun _ _ writes => writes.parse⟩
  · rw [m.run_mapWithResults hasSource hasTarget, ran]
  · rw [entries_filter_auto, FieldMapper.found, views, found]
  · intro layered name writable
    obtain ⟨_, left⟩ := exists_record_of_isWritable writable
    exact layered.exists_record left
  · rw [autoEntries, views, told]

end FieldMapper

namespace Shipment

theorem layered_shipping : shipping.Layered := by
  refine .intro shipping rfl fun e member => ?_
  obtain rfl | rfl : e = Entry.copy "port" ∨ e = Entry.copy "cargo" := by
    simpa [shipping] using member
  · exact .writes _ (.ofProperty "port") rfl
  · exact .writes _ (.ofProperty "cargo") rfl

/-- The port and the cargo are claimed, so that the date alone is copied by name, as foreseen. -/
theorem shipping_copies_date :
    shipping.viewOf = View.ofValue ∧ order.isNull = false ∧ shipment.isNull = false ∧
      ((View.ofValue order).fieldNames order).Nodup ∧ shipping.Layered ∧
      (∃ last scope',
        (shipping.mapWithResults order shipment).run [] =
            (.ok ((shipping.steps order shipment []).map (·.result), last), scope') ∧
          ((shipping.steps order shipment []).filter (·.result.auto)).map (·.entry) =
            [Entry.copy "date"] ∧
          shipping.Copies order shipment (shipping.runDeclared order shipment []).1.2 ["date"]) ∧
      (∀ name, (Path.ofProperty name).isWritable shipping.coercer.instantiate
          (shipping.runDeclared order shipment []).1.2 = .ok true → ∃ r, shipment = .record r) ∧
      (shipping.autoEntries order shipment = [Entry.copy "date"] ∧
        shipping.Copies order shipment shipment ["date"]) ∧
      (∀ e : Entry, e.Faithful) ∧
      ∀ name text, Expression.Writes name text →
        ∃ e, Expression.parse text = .ok e ∧ e.tree = .property name := by
  obtain ⟨⟨last, scope', copied, ran, found, copies⟩, kind, ⟨foreseen, told, foretold⟩, faithful,
    read⟩ := FieldMapper.mapWithResults_handles_once shipping rfl order shipment rfl rfl
      (by decide) []
  have date {names : List String} (one : names.map Entry.copy = [Entry.copy "date"]) :
      names = ["date"] := by
    obtain ⟨name, rfl, same⟩ := List.map_eq_singleton_iff.1 one
    rw [Entry.copy_injective same]
  obtain rfl : copied = ["date"] := date (found.symm.trans rfl)
  obtain rfl : foreseen = ["date"] := date (told.symm.trans rfl)
  exact ⟨rfl, rfl, rfl, by decide, layered_shipping, ⟨last, scope', ran, found, copies⟩,
    kind layered_shipping, ⟨told, foretold⟩, faithful, read⟩

/-- Puts something else in the place of the target, whatever that was. -/
def replacing (v : Value) : FieldMapper where
  entries := [⟨.whole ["port"] ⟨0, none, fun _ _ => pure (.ok (), v)⟩, none⟩]

/-- An order that tells a date alone. -/
def dated : Value := .record ⟨.unnamed, [("date", .string "Monday")]⟩

/-- What can be written on the target as the declared entries left it is not always what is copied
by name. A record that came in the place of a list could take the date, but nothing is copied to
it; and for a record whose place is emptied a copy is foreseen, though nothing is left to take
it. -/
theorem replaced_target_takes_no_copy :
    ((replacing .emptyRecord).viewOf = View.ofValue ∧ dated.isNull = false ∧
        (Value.list []).isNull = false ∧ (View.ofValue dated).fieldNames dated = ["date"] ∧
        (replacing .emptyRecord).autoMapping = true ∧
        "date" ∉ (replacing .emptyRecord).excluded ∧
        (∀ e ∈ (replacing .emptyRecord).entries, e.claims "date" = false) ∧
        (Path.ofProperty "date").isWritable (replacing .emptyRecord).coercer.instantiate
          ((replacing .emptyRecord).runDeclared dated (.list []) []).1.2 = .ok true ∧
        ((replacing .emptyRecord).mapWithResults dated (.list [])).run [] =
          (.ok ([⟨"port", "*", false, .success .null⟩], .emptyRecord), [])) ∧
      (replacing .null).viewOf = View.ofValue ∧
        (Path.ofProperty "date").isWritable (replacing .null).coercer.instantiate
          ((replacing .null).runDeclared dated .emptyRecord []).1.2 ≠ .ok true ∧
        ((replacing .null).mapWithResults dated .emptyRecord).run [] =
          (.ok ([⟨"port", "*", false, .success .null⟩], .null), []) ∧
        (replacing .null).autoEntries dated .emptyRecord = [Entry.copy "date"] := by
  refine ⟨⟨rfl, rfl, rfl, rfl, rfl, List.not_mem_nil, ?_, rfl, rfl⟩, rfl, nofun, rfl, rfl⟩
  intro e member
  obtain rfl := List.mem_singleton.mp member
  rfl

end Shipment

end Remap
