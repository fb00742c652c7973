import Remap.Proofs.Convert.Everywhere
import Remap.Proofs.Mapping.Turns
import Remap.Proofs.Mapping.Verdict
import Remap.Regex.Reader

/-!
# How copies by name fail

A field that a record shows can be read, and a pass copies by name only what the target takes. So
the one thing that can go wrong with a copy is that its value does not fit the declared type of its
place.

Main statement: what a built mapper copies by name succeeds, or its value cannot be converted.
-/

namespace Remap

/-! ## One copy -/

/-- What a record shows can be read; a declared field that is missing reads as null. -/
theorem Expression.readProperty_of_shown {r : Record} {name : String}
    (shown : name ∈ r.fieldNames) :
    readProperty (.record r) name = .ok (Path.fieldContent r name) := by
  have accepted := RecordOf.accepts_of_shown shown
  simp only [readProperty, Path.fieldContent]
  cases r.get? name with
  | some v => rfl
  | none => simp only [accepted, if_true, Option.getD_none]

namespace Pass

variable {pass : Pass} {source target : Record} {name : String} {scope : Scope}

variable [Regex.Engine]

/-- A shown field is offered to the field of the same name. -/
theorem offered?_copy (given : pass.source = .record source) (shown : name ∈ source.fieldNames)
    (target : Value) :
    pass.offered? target (Entry.copy name) =
      some (.ofProperty name, Path.fieldContent source name) := by
  have read : pass.read (.ofProperty name) = .ok (Path.fieldContent source name) := by
    show Expression.readProperty pass.source name = _
    rw [given]
    exact Expression.readProperty_of_shown shown
  simp only [offered?, Entry.copy, applies, read]
  rfl

/-- A copy of a shown field to a field that can be written is a fitting and a store. -/
theorem runEntry_copy (given : pass.source = .record source) (shown : name ∈ source.fieldNames)
    (accepted : target.accepts name = true) (writable : target.isWritable name = true)
    (scope : Scope) :
    (pass.runEntry true (Entry.copy name) (.record target)).run scope =
      let fitted :=
        (pass.coercer.coerce (Path.fieldContent source name)
          (target.declaredType name)).run.run scope
      match fitted.1 with
      | .ok w =>
        (report true (Entry.copy name)
          (.ok (some (Path.fieldContent source name)), .record (target.put name w)), fitted.2)
      | .error e =>
        (report true (Entry.copy name) (.error (.write e), .record target), fitted.2) := by
  rw [runEntry_of_offered true (offered?_copy given shown _), write, Path.writeInto,
    Path.ofProperty, Path.assign_of_lands (.field target name accepted writable), Path.storeFitted]
  simp only [StateT.run_map, StateT.run_bind]
  cases (pass.coercer.coerce (Path.fieldContent source name)
      (target.declaredType name)).run.run scope with
  | mk result after =>
    cases result with
    | ok w => rfl
    | error e => rfl

end Pass

/-! ## Failures -/

/-- The value was copied, or it could not be converted to the declared type of its place. -/
def MappingResult.Copied (r : MappingResult) : Prop :=
  (∃ v, r.outcome = .success v) ∨
    ∃ found expected message,
      r.outcome = .failure (.write (.conversion found expected message)) .warning

namespace Pass

variable {pass : Pass} {source target : Record} {name : String} {scope : Scope}

variable [Regex.Engine]

/-- A copy succeeds or fails to convert, and the target takes what it took before. -/
theorem copied_runEntry (given : pass.source = .record source)
    (misfits : ∀ v t scope e scope', (pass.coercer.coerce v t).run.run scope = (.error e, scope') →
      ∃ found expected message, e = .conversion found expected message)
    (shown : name ∈ source.fieldNames)
    (taken : target.accepts name = true ∧ target.isWritable name = true) (scope : Scope) :
    let ran := (pass.runEntry true (Entry.copy name) (.record target)).run scope
    ran.1.1.Copied ∧
      (ran.1.2 = .record target ∨ ∃ w, ran.1.2 = .record (target.put name w)) := by
  intro ran
  have copy := runEntry_copy given shown taken.1 taken.2 scope
  dsimp only at copy
  cases fitting : (pass.coercer.coerce (Path.fieldContent source name)
      (target.declaredType name)).run.run scope with
  | mk result after =>
    rw [fitting] at copy
    cases result with
    | ok w =>
      have ran_eq : ran = (report true (Entry.copy name)
          (.ok (some (Path.fieldContent source name)), .record (target.put name w)), after) := copy
      rw [ran_eq]
      exact ⟨.inl ⟨_, rfl⟩, .inr ⟨w, rfl⟩⟩
    | error e =>
      obtain ⟨found, expected, message, rfl⟩ := misfits _ _ _ _ _ fitting
      have ran_eq : ran = (report true (Entry.copy name)
          (.error (.write (.conversion found expected message)), .record target), after) := copy
      rw [ran_eq]
      exact ⟨.inr ⟨found, expected, message, rfl⟩, .inl rfl⟩

/-- The first of several entries is run by itself, and the others on what it leaves. -/
theorem run_runEntries_cons (auto : Bool) (e : Entry) (rest : List Entry) (target : Value)
    (scope : Scope) :
    (pass.runEntries auto (e :: rest) target).run scope =
      let ran := (pass.runEntry auto e target).run scope
      let more := (pass.runEntries auto rest ran.1.2).run ran.2
      ((ran.1.1 :: more.1.1, more.1.2), more.2) := rfl

/-- Copies of shown fields that the target takes succeed or fail to convert, one after the other. -/
theorem copied_of_mem_runEntries (given : pass.source = .record source)
    (misfits : ∀ v t scope e scope', (pass.coercer.coerce v t).run.run scope = (.error e, scope') →
      ∃ found expected message, e = .conversion found expected message)
    {names : List String} (shown : ∀ name ∈ names, name ∈ source.fieldNames)
    (taken : ∀ name ∈ names, target.accepts name = true ∧ target.isWritable name = true)
    {r : MappingResult}
    (member : r ∈ ((pass.runEntries true (names.map Entry.copy) (.record target)).run scope).1.1) :
    r.Copied := by
  induction names generalizing target scope with
  | nil => cases member
  | cons first rest ih =>
    have step := copied_runEntry given misfits (shown first List.mem_cons_self)
      (taken first List.mem_cons_self) scope
    rw [List.map_cons, run_runEntries_cons] at member
    rcases List.mem_cons.mp member with here | later
    · rw [here]
      exact step.1
    · have shownLater : ∀ name ∈ rest, name ∈ source.fieldNames :=
        fun name member => shown name (List.mem_cons_of_mem first member)
      have takenLater : ∀ name ∈ rest, target.accepts name = true ∧ target.isWritable name = true :=
        fun name member => taken name (List.mem_cons_of_mem first member)
      rcases step.2 with same | ⟨w, stored⟩
      · rw [same] at later
        exact ih shownLater takenLater later
      · have takenStored : ∀ name ∈ rest, (target.put first w).accepts name = true ∧
            (target.put first w).isWritable name = true := takenLater
        rw [stored] at later
        exact ih shownLater takenStored later

/-- Results carry the mark that their entries were run with. -/
theorem auto_of_mem_runEntries {auto : Bool} {entries : List Entry} {target : Value}
    {r : MappingResult} (member : r ∈ ((pass.runEntries auto entries target).run scope).1.1) :
    r.auto = auto := by
  rw [← map_result_steps] at member
  obtain ⟨step, stepped, rfl⟩ := List.mem_map.mp member
  exact auto_of_mem_steps stepped

end Pass

namespace FieldMapper

variable {m : FieldMapper} {source target : Value} {scope : Scope}

/-- A pass runs the declared entries and then, on what they leave, those that it finds by name. -/
theorem run_run [Regex.Engine] (m : FieldMapper) (source target : Value) (scope : Scope) :
    (m.run source target).run scope =
      let declared := m.runDeclared source target scope
      let copied := ((m.passOver source).runEntries true (m.found source target scope)
        declared.1.2).run declared.2
      ((declared.1.1 ++ copied.1.1, copied.1.2), copied.2.leave) := rfl

/-- The entries found by name copy fields that the source shows and that the target takes. -/
theorem exists_names_found [Regex.Engine] (views : m.viewOf = View.ofValue) (source target : Value)
    (scope : Scope) :
    ∃ names : List String, m.found source target scope = names.map Entry.copy ∧
      ∀ name ∈ names, name ∈ (View.ofValue source).fieldNames source ∧
        copies.canTake m (View.ofValue target) (m.runDeclared source target scope).1.2 name =
          true := by
  rw [found, copies, views]
  split
  · refine ⟨_, rfl, ?_⟩
    intro name member
    obtain ⟨shown, left⟩ := List.mem_filter.mp member
    exact ⟨shown, (Bool.and_eq_true_iff.mp left).2⟩
  · refine ⟨[], rfl, ?_⟩
    intro name member
    cases member

/-- A field that can be taken is a field of a record that accepts it and lets it be written. -/
theorem exists_record_of_canTake {view after : Value} {name : String}
    (taken : copies.canTake m (View.ofValue view) after name = true) :
    ∃ r : Record, after = .record r ∧ r.accepts name = true ∧ r.isWritable name = true := by
  have writable := canTake_iff.mp taken
  cases view with
  | record =>
    cases after with
    | record r =>
      refine ⟨r, rfl, ?_⟩
      change Path.writable m.coercer.instantiate [.property name] (.record r) = .ok true at writable
      rw [Path.writable] at writable
      split at writable
      · cases writable
      · next accepted => exact ⟨by simpa using accepted, Except.ok.inj writable⟩
    | _ => cases writable
  | _ => cases writable

/-- Only records show fields. -/
theorem exists_record_of_shown {name : String}
    (shown : name ∈ (View.ofValue source).fieldNames source) :
    ∃ r : Record, source = .record r ∧ name ∈ r.fieldNames := by
  cases source with
  | record r => exact ⟨r, rfl, shown⟩
  | _ => cases shown

/-- A pass copies by name without other failures than those to convert a value. -/
theorem copied_of_mem_run [Regex.Engine] (views : m.viewOf = View.ofValue) {r : MappingResult}
    (member : r ∈ ((m.run source target).run scope).1.1) (auto : r.auto = true) : r.Copied := by
  rw [run_run] at member
  rcases List.mem_append.mp member with declared | copied
  · rw [Pass.auto_of_mem_runEntries declared] at auto
    cases auto
  · obtain ⟨names, found, taken⟩ :=
      exists_names_found views source target scope
    rw [found] at copied
    generalize (m.runDeclared source target scope).1.2 = after at copied taken
    cases names with
    | nil => cases copied
    | cons first rest =>
      -- One copied field is enough to know that the source and the target are records.
      obtain ⟨shown, takes⟩ := taken first List.mem_cons_self
      obtain ⟨s, rfl, -⟩ := exists_record_of_shown shown
      obtain ⟨t, rfl, -⟩ := exists_record_of_canTake takes
      refine Pass.copied_of_mem_runEntries rfl (fun _ _ _ _ _ => coerceWith_eq_error)
        (fun name member => (taken name member).1) ?_ copied
      intro name member
      obtain ⟨same, equal, both⟩ := exists_record_of_canTake (taken name member).2
      cases equal
      exact both

end FieldMapper

namespace Definition

/-- Copies by name fail only by conversion. Whatever the declared entries of a built mapper did, a
field that it copies by name was mapped, or its value could not be converted to the declared type of
its place, which is a warning. -/
theorem auto_fails_by_conversion [Regex.Engine] (d : Definition) (m : FieldMapper)
    (built : d.build = .ok m) (source target : Value) (hasSource : source.isNull = false)
    (hasTarget : target.isNull = false) (scope : Scope) :
    ∃ results last scope',
      (m.mapWithResults source target).run scope = (.ok (results, last), scope') ∧
        ∀ r ∈ results, r.auto = true →
          (∃ v, r.outcome = .success v) ∨
            ∃ found expected message,
              r.outcome = .failure (.write (.conversion found expected message)) .warning := by
  refine ⟨_, _, _, m.run_mapWithResults hasSource hasTarget scope, ?_⟩
  intro r member auto
  cases layered_of_build built with
  | intro _ views _ => exact FieldMapper.copied_of_mem_run views member auto

end Definition

namespace Shipment

/-- Booking an order for a shipment copies the port and cannot convert the cargo, since nothing
makes parcels of crates. -/
theorem booking_fails_by_conversion :
    ∃ m, booking.build = .ok m ∧ order.isNull = false ∧ shipment.isNull = false ∧
      ∃ results last scope',
        (m.mapWithResults order shipment).run [] = (.ok (results, last), scope') ∧
          (results.map fun r => (r.target, r.auto, r.isFailure)) =
            [("*", false, true), ("port", true, false), ("cargo", true, true)] ∧
          ∀ r ∈ results, r.auto = true →
            (∃ v, r.outcome = .success v) ∨
              ∃ found expected message,
                r.outcome = .failure (.write (.conversion found expected message)) .warning := by
  refine ⟨_, rfl, rfl, rfl, ?_⟩
  obtain ⟨results, last, scope', ran, copied⟩ :=
    Definition.auto_fails_by_conversion booking _ rfl order shipment rfl rfl []
  refine ⟨results, last, scope', ran, ?_, copied⟩
  cases ran
  rfl

end Shipment

end Remap
