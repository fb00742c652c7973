import Remap.Proofs.Mapping.Copying
import Remap.Regex.Reader

/-!
# Copying everything

A record without declarations takes every field with any content, so nothing can go wrong with a
copy to it. A mapper without entries does nothing but copy.

Main statement: a mapper without entries copies all that a record shows onto a record without
declarations, and leaves the rest of it alone.
-/

namespace Remap

/-! ## Records with fields of other records -/

/-- The record with some fields of another one, stored one after the other. -/
def Record.copyFields (source : Record) : Record → List String → Record
  | target, [] => target
  | target, name :: rest =>
    copyFields source (target.put name (Path.fieldContent source name)) rest

namespace Record

variable {source target : Record} {names : List String} {name : String}

@[simp] theorem shape_copyFields (source target : Record) (names : List String) :
    (source.copyFields target names).shape = target.shape := by
  induction names generalizing target with
  | nil => rfl
  | cons first rest ih => exact ih (target.put first (Path.fieldContent source first))

theorem get?_copyFields_of_not_mem (absent : name ∉ names) :
    (source.copyFields target names).get? name = target.get? name := by
  induction names generalizing target with
  | nil => rfl
  | cons first rest ih =>
    obtain ⟨different, later⟩ := not_or.mp (mt List.mem_cons.mpr absent)
    rw [copyFields, ih later]
    exact RecordOf.get?_put_of_ne target _ different

/-- A copied field holds what the source holds, also if it is copied more than once. -/
theorem get?_copyFields_of_mem (member : name ∈ names) :
    (source.copyFields target names).get? name = some (Path.fieldContent source name) := by
  induction names generalizing target with
  | nil => cases member
  | cons first rest ih =>
    rw [copyFields]
    by_cases later : name ∈ rest
    · exact ih later
    · have here : name = first := (List.mem_cons.mp member).resolve_right later
      subst here
      rw [get?_copyFields_of_not_mem later]
      exact RecordOf.get?_put_self target name _

/-- Fields from before stay where they are, and the new ones follow in the order of copying. -/
theorem exists_names_copyFields (source target : Record) (names : List String) :
    ∃ added, Fields.names (source.copyFields target names).fields =
        Fields.names target.fields ++ added ∧
      added.Sublist names ∧ added.Nodup ∧
      ∀ name, name ∈ added ↔ name ∈ names ∧ name ∉ Fields.names target.fields := by
  induction names generalizing target with
  | nil => exact ⟨[], (List.append_nil _).symm, .slnil, List.nodup_nil, by simp⟩
  | cons first rest ih =>
    obtain ⟨added, order, sublist, once, new⟩ :=
      ih (target.put first (Path.fieldContent source first))
    have stored : Fields.names (target.put first (Path.fieldContent source first)).fields =
        if first ∈ Fields.names target.fields then Fields.names target.fields
        else Fields.names target.fields ++ [first] :=
      Fields.names_put target.fields first _
    rw [copyFields, order, stored]
    rw [stored] at new
    by_cases old : first ∈ Fields.names target.fields
    · rw [if_pos old] at new ⊢
      refine ⟨added, rfl, sublist.cons first, once, ?_⟩
      intro name
      rw [new name, List.mem_cons]
      constructor
      · rintro ⟨member, absent⟩
        exact ⟨.inr member, absent⟩
      · rintro ⟨rfl | member, absent⟩
        · exact absurd old absent
        · exact ⟨member, absent⟩
    · rw [if_neg old] at new ⊢
      refine ⟨first :: added, by rw [List.append_assoc]; rfl, sublist.cons_cons first, ?_, ?_⟩
      · refine List.nodup_cons.mpr ⟨?_, once⟩
        intro member
        exact ((new first).mp member).2 (List.mem_append_right _ List.mem_cons_self)
      · intro name
        rw [List.mem_cons, new name, List.mem_cons, List.mem_append, List.mem_singleton]
        by_cases here : name = first
        · subst here
          simp [old]
        · simp [here]

/-- Fields that are new to the target are appended as they are in the source. -/
theorem fields_copyFields_of_new (distinct : names.Nodup)
    (new : ∀ name ∈ names, name ∉ Fields.names target.fields) :
    (source.copyFields target names).fields =
      target.fields ++ names.map fun name => (name, Path.fieldContent source name) := by
  induction names generalizing target with
  | nil => exact (List.append_nil _).symm
  | cons first rest ih =>
    obtain ⟨once, distinct⟩ := List.nodup_cons.mp distinct
    have appended : (target.put first (Path.fieldContent source first)).fields =
        target.fields ++ [(first, Path.fieldContent source first)] :=
      Fields.put_of_not_mem (new first List.mem_cons_self) _
    have later : ∀ name ∈ rest, name ∉
        Fields.names (target.put first (Path.fieldContent source first)).fields := by
      intro name member stored
      rw [appended, Fields.names, List.map_append] at stored
      rcases List.mem_append.mp stored with old | same
      · exact new name (List.mem_cons_of_mem first member) old
      · cases List.mem_singleton.mp same
        exact once member
    rw [copyFields, ih distinct later, appended, List.append_assoc]
    rfl

/-- An empty record with all fields of a record without declarations has the fields of that one. -/
theorem fields_copyFields_of_empty (unbound : source.descriptor? = none)
    (distinct : Fields.Distinct source.fields) (empty : target.fields = []) :
    (source.copyFields target source.fieldNames).fields = source.fields := by
  have shown : source.fieldNames = Fields.names source.fields :=
    RecordOf.fieldNames_of_open unbound
  have once : source.fieldNames.Nodup := by
    rw [shown]
    exact distinct
  have new : ∀ name ∈ source.fieldNames, name ∉ Fields.names target.fields := by
    intro name _ member
    rw [empty] at member
    cases member
  rw [fields_copyFields_of_new once new, empty, List.nil_append, shown]
  exact distinct.map_contents .null

end Record

/-! ## Passes of copies -/

/-- Without failures no policy raises anything. -/
theorem FailurePolicy.not_raises_of_success {results : List MappingResult}
    (succeeded : ∀ r ∈ results, r.isFailure = false) (policy : FailurePolicy) :
    ¬ policy.Raises results := by
  intro raised
  cases policy with
  | raise =>
    obtain ⟨r, member, failed⟩ := raised
    exact absurd failed (by simp [succeeded r member])
  | raiseOnErrors =>
    obtain ⟨r, member, -, failed⟩ := raised
    exact absurd failed (by simp [succeeded r member])
  | collect => exact raised

section

variable [Regex.Engine]

namespace Pass

variable {pass : Pass} {source : Record}

/-- A copy onto a record without declarations succeeds and stores what the source holds. -/
theorem runEntry_copy_of_open (given : pass.source = .record source)
    (fits : ∀ v, pass.coercer.coerce v .any = pure v) {name : String}
    (shown : name ∈ source.fieldNames) {target : Record} (free : target.descriptor? = none)
    (scope : Scope) :
    (pass.runEntry true (Entry.copy name) (.record target)).run scope =
      (report true (Entry.copy name) (.ok (some (Path.fieldContent source name)),
        .record (target.put name (Path.fieldContent source name))), scope) := by
  obtain ⟨accepted, writable, declared⟩ := RecordOf.takes_of_open free name
  rw [runEntry_copy given shown accepted writable scope, declared, fits]
  rfl

/-- So do several copies, one after the other. -/
theorem run_copies_of_open (given : pass.source = .record source)
    (fits : ∀ v, pass.coercer.coerce v .any = pure v) {names : List String}
    (shown : ∀ name ∈ names, name ∈ source.fieldNames) {target : Record}
    (free : target.descriptor? = none) (scope : Scope) :
    ∃ results, (pass.runEntries true (names.map Entry.copy) (.record target)).run scope =
        ((results, .record (source.copyFields target names)), scope) ∧
      ∀ r ∈ results, r.isFailure = false := by
  induction names generalizing target with
  | nil =>
    refine ⟨[], rfl, ?_⟩
    intro r member
    cases member
  | cons first rest ih =>
    have step := runEntry_copy_of_open given fits (shown first List.mem_cons_self) free scope
    have kept : (target.put first (Path.fieldContent source first)).descriptor? = none := free
    have later : ∀ name ∈ rest, name ∈ source.fieldNames :=
      fun name member => shown name (List.mem_cons_of_mem first member)
    obtain ⟨results, more, succeeded⟩ := ih later kept
    refine ⟨(report true (Entry.copy first) (.ok (some (Path.fieldContent source first)),
      .record (target.put first (Path.fieldContent source first)))).1 :: results, ?_, ?_⟩
    · rw [List.map_cons, run_runEntries_cons, step]
      simp only [report, more, Record.copyFields]
    · intro r member
      rcases List.mem_cons.mp member with here | later
      · rw [here]
        rfl
      · exact succeeded r later

end Pass

namespace FieldMapper

variable {m : FieldMapper}

theorem runDeclared_of_plain (plain : m.entries = []) (source target : Value) (scope : Scope) :
    m.runDeclared source target scope = (([], target), scope.enter source.key.text) := by
  rw [runDeclared, plain]
  rfl

/-- With no entries and nothing excluded, every field that the target takes is found by name. -/
theorem found_of_open (plain : m.entries = []) (unexcluded : m.excluded = [])
    (automatic : m.autoMapping = true) (views : m.viewOf = View.ofValue) (source : Record)
    {target : Record} (free : target.descriptor? = none) (scope : Scope) :
    m.found (.record source) (.record target) scope = source.fieldNames.map Entry.copy := by
  have all : ∀ name ∈ source.fieldNames,
      (m.leaves name && copies.canTake m (View.ofValue (.record target)) (.record target) name) =
        true := by
    intro name _
    obtain ⟨accepted, writable, -⟩ := RecordOf.takes_of_open free name
    have left : m.leaves name = true := by simp [leaves, plain, unexcluded]
    have taken : copies.canTake m (View.ofValue (.record target)) (.record target) name = true := by
      apply canTake_iff.mpr
      show Path.writable m.coercer.instantiate [.property name] (.record target) = .ok true
      simp [Path.writable, accepted, writable]
    rw [left, taken]
    rfl
  rw [found, runDeclared_of_plain plain, views, copies, if_pos automatic]
  exact congrArg (List.map Entry.copy) (List.filter_eq_self.mpr all)

/-- The default mapper copies. Without entries and exclusions, whatever the registries and the
policy, it maps any record onto a record without declarations. Every field that the source shows
ends up in the target, null where the source holds nothing; all others stay as they are. The fields
of the target keep their places and the new ones follow in the order of the source. -/
theorem map_copies_shown (m : FieldMapper) (plain : m.entries = []) (unexcluded : m.excluded = [])
    (automatic : m.autoMapping = true) (views : m.viewOf = View.ofValue) (source target : Record)
    (free : target.descriptor? = none) (scope : Scope) :
    ∃ last : Record,
      (m.map (.record source) (.record target)).run scope = (.ok (.record last), scope) ∧
        last.shape = target.shape ∧
        (∀ name ∈ source.fieldNames, last.get? name = some ((source.get? name).getD .null)) ∧
        (∀ name, name ∉ source.fieldNames → last.get? name = target.get? name) ∧
        (∃ added, Fields.names last.fields = Fields.names target.fields ++ added ∧
          added.Sublist source.fieldNames ∧ added.Nodup ∧
          ∀ name, name ∈ added ↔ name ∈ source.fieldNames ∧ name ∉ Fields.names target.fields) ∧
        (source.descriptor? = none → Fields.Distinct source.fields → target.fields = [] →
          last.fields = source.fields) := by
  refine ⟨source.copyFields target source.fieldNames, ?_, Record.shape_copyFields _ _ _, ?_, ?_,
    Record.exists_names_copyFields source target source.fieldNames, ?_⟩
  · have given : (m.passOver (.record source)).source = .record source := rfl
    have fits : ∀ v, (m.passOver (.record source)).coercer.coerce v .any = pure v := by
      intro v
      show coerceWith m.conversions m.types v .any = pure v
      exact coerceWith_of_accepts (FieldType.accepts_any v)
    obtain ⟨results, copied, succeeded⟩ := Pass.run_copies_of_open given fits
      (fun _ shown => shown) free (scope.enter (Value.record source).key.text)
    have ran : (m.run (.record source) (.record target)).run scope =
        ((results, .record (source.copyFields target source.fieldNames)), scope) := by
      rw [run_run, found_of_open plain unexcluded automatic views source free,
        runDeclared_of_plain plain]
      simp only [copied, List.nil_append, Scope.leave_enter]
    have tolerated : ¬ m.policy.Raises results := FailurePolicy.not_raises_of_success succeeded _
    exact (run_map_of_raises rfl rfl ran).2 tolerated
  · intro name shown
    exact Record.get?_copyFields_of_mem shown
  · intro name hidden
    exact Record.get?_copyFields_of_not_mem hidden
  · intro unbound distinct empty
    exact Record.fields_copyFields_of_empty unbound distinct empty

end FieldMapper

end

namespace Shipment

/-- A manifest whose fields have names of all sorts, with a remark that is declared and missing. -/
def manifest : Record where
  shape := .typed ⟨"Manifest", [⟨"port", .string, true⟩, ⟨"ship's name", .string, true⟩,
    ⟨"", .any, true⟩, ⟨"true", .boolean, true⟩, ⟨"remark", .any, false⟩]⟩
  fields := [("true", .boolean false), ("ship's name", .string "Kiwi"), ("port", .string "Perth"),
    ("", .list [])]

/-- What is known of a ship before its manifest comes. -/
def arrival : Record := ⟨.named "Arrival", [("day", .string "Monday"), ("port", .null)]⟩

/-- The fields of the manifest are copied to the arrival, which keeps its day. -/
theorem arrival_copies_manifest :
    arrival.descriptor? = none ∧
      ∃ last : Record,
        (FieldMapper.map {} (.record manifest) (.record arrival)).run [] =
            (.ok (.record last), []) ∧
          last.get? "ship's name" = some (.string "Kiwi") ∧ last.get? "remark" = some .null ∧
          last.get? "day" = some (.string "Monday") ∧
          Fields.names last.fields = ["day", "port", "ship's name", "", "true", "remark"] := by
  refine ⟨rfl, ?_⟩
  obtain ⟨last, ran, -, shown, hidden, -⟩ :=
    FieldMapper.map_copies_shown {} rfl rfl rfl rfl manifest arrival rfl []
  refine ⟨last, ran, shown "ship's name" (by decide), shown "remark" (by decide),
    hidden "day" (by decide), ?_⟩
  cases ran
  rfl

end Shipment

end Remap
