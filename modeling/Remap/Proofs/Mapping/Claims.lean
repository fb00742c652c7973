import Remap.Proofs.Expression.Property
import Remap.Proofs.Mapping.Adding

/-!
# What entries claim

An entry claims the fields that it takes care of. `Entry.Faithful` says that these are the right
ones: whichever way a source expression writes a property, the entry claims it, and an assembly of
a group claims the fields that it gathers and no others.

Main statement: every entry is faithful.
-/

namespace Remap

namespace Assembly

/-- The field of a group with a suffix. -/
def groupField (stem suffix : String) : String := stem ++ "." ++ suffix

theorem suffixChars?_eq_some_iff {stem name rest : List Char} :
    suffixChars? stem name = some rest ↔ name = stem ++ '.' :: rest := by
  fun_induction suffixChars? stem name with
  | case1 | case2 | case5 => simp_all
  | case3 stem c name ih => rw [ih, List.cons_append, List.cons_inj_right]
  | case4 s stem c name different =>
    simp only [List.cons_append, List.cons.injEq, Ne.symm different, false_and, reduceCtorEq]

theorem suffix?_eq_some_iff {stem name suffix : String} :
    suffix? stem name = some suffix ↔ name = groupField stem suffix := by
  have chars : (groupField stem suffix).toList = stem.toList ++ '.' :: suffix.toList := by
    simp [groupField]
  rw [suffix?, Option.map_eq_some_iff, ← String.toList_inj, chars]
  constructor
  · rintro ⟨rest, found, rfl⟩
    rw [String.toList_ofList]
    exact suffixChars?_eq_some_iff.1 found
  · intro equal
    exact ⟨suffix.toList, suffixChars?_eq_some_iff.2 equal, String.ofList_toList⟩

/-- Fields of one group with different suffixes differ. -/
theorem groupField_injective (stem : String) : Function.Injective (groupField stem) := by
  intro suffix other equal
  have found := suffix?_eq_some_iff.2 equal
  rw [suffix?_eq_some_iff.2 rfl] at found
  exact Option.some.inj found

end Assembly

/-- The expressions that an action reads by themselves. -/
def Action.sources : Action → List Expression
  | .field source _ _ => [source]
  | .fanOut source _ => [source]
  | .assembled (.fields sources) _ _ => sources
  | .whole .. => []
  | .assembled (.group _) _ _ => []

/-- A source expression that is a property of the root claims it. -/
theorem Expression.claims_of_tree {e : Expression} {name : String}
    (plain : e.tree = .property name) : e.claims name = true := by
  simp [claims, rootProperty?, plain]

theorem Action.claims_of_source {a : Action} {s : Expression} (source : s ∈ a.sources)
    {name : String} (plain : s.tree = .property name) : a.claims name = true := by
  have claimed := Expression.claims_of_tree plain
  cases a with
  | field | fanOut =>
    cases List.mem_singleton.1 source
    exact claimed
  | whole => cases source
  | assembled sources =>
    cases sources with
    | fields sources => exact List.any_eq_true.2 ⟨s, source, claimed⟩
    | group => cases source

variable [Regex.Engine]

namespace Pass

variable {pass : Pass} {stem : String}

/-- A name outside the group is passed over. -/
theorem gatherGroup_other {name : String} (other : ∀ suffix, name ≠ Assembly.groupField stem suffix)
    (parts : Record) (rest : List String) :
    pass.gatherGroup stem parts (name :: rest) = pass.gatherGroup stem parts rest := by
  have passed : Assembly.suffix? stem name = none :=
    Option.eq_none_iff_forall_ne_some.2 fun suffix found =>
      other suffix (Assembly.suffix?_eq_some_iff.1 found)
  rw [gatherGroup, passed]

/-- A field of the group is read and stored under its suffix. -/
theorem gatherGroup_groupField (suffix : String) (parts : Record) (rest : List String) :
    pass.gatherGroup stem parts (Assembly.groupField stem suffix :: rest) =
      (pass.read (.ofProperty (Assembly.groupField stem suffix)) >>= fun v =>
        pass.gatherGroup stem (parts.put suffix v) rest) := by
  rw [gatherGroup, Assembly.suffix?_eq_some_iff.2 rfl]

/-- The fields of a group among some names are stored as they are read, and nothing else is. -/
theorem get?_gatherGroup {parts after : Record} {names : List String}
    (done : pass.gatherGroup stem parts names = .ok after) (suffix : String) :
    (Assembly.groupField stem suffix ∈ names →
        ∃ v, pass.read (.ofProperty (Assembly.groupField stem suffix)) = .ok v ∧
          after.get? suffix = some v) ∧
      (Assembly.groupField stem suffix ∉ names → after.get? suffix = parts.get? suffix) := by
  induction names generalizing parts with
  | nil =>
    cases done
    exact ⟨fun member => absurd member List.not_mem_nil, fun _ => rfl⟩
  | cons name rest ih =>
    by_cases field : ∃ taken, name = Assembly.groupField stem taken
    · obtain ⟨taken, rfl⟩ := field
      rw [gatherGroup_groupField] at done
      obtain ⟨v, read, done⟩ := bind_eq_ok.mp done
      have tail := ih done
      by_cases same : suffix = taken
      · subst same
        refine ⟨fun _ => ?_, fun absent => absurd List.mem_cons_self absent⟩
        by_cases later : Assembly.groupField stem suffix ∈ rest
        · exact tail.1 later
        · exact ⟨v, read, by rw [tail.2 later, RecordOf.get?_put_self]⟩
      · have other : Assembly.groupField stem suffix ≠ Assembly.groupField stem taken :=
          fun equal => same (Assembly.groupField_injective stem equal)
        rw [RecordOf.get?_put_of_ne parts v same] at tail
        simpa [other] using tail
    · have other : ∀ suffix, name ≠ Assembly.groupField stem suffix := not_exists.1 field
      rw [gatherGroup_other other] at done
      simpa [Ne.symm (other suffix)] using ih done

/-- If a group cannot be gathered, one of its fields cannot be read. -/
theorem exists_unread_of_gatherGroup {parts : Record} {names : List String} {e : EvalError}
    (failed : pass.gatherGroup stem parts names = .error e) :
    ∃ suffix, Assembly.groupField stem suffix ∈ names ∧
      pass.read (.ofProperty (Assembly.groupField stem suffix)) = .error e := by
  induction names generalizing parts with
  | nil => cases failed
  | cons name rest ih =>
    by_cases field : ∃ taken, name = Assembly.groupField stem taken
    · obtain ⟨taken, rfl⟩ := field
      rw [gatherGroup_groupField] at failed
      cases read : pass.read (.ofProperty (Assembly.groupField stem taken)) with
      | error e' =>
        rw [read] at failed
        cases failed
        exact ⟨taken, List.mem_cons_self, read⟩
      | ok v =>
        rw [read] at failed
        exact (ih failed).imp fun _ found => ⟨List.mem_cons_of_mem _ found.1, found.2⟩
    · rw [gatherGroup_other (not_exists.1 field)] at failed
      exact (ih failed).imp fun _ found => ⟨List.mem_cons_of_mem _ found.1, found.2⟩

/-- What gathering a group comes to. -/
inductive Gathered (pass : Pass) (stem : String) : Except EvalError Record → Prop
  /-- The record holds the fields of the group as they are read, and nothing else. -/
  | all (parts : Record)
      (read : ∀ suffix, Assembly.groupField stem suffix ∈ pass.fieldNames →
        ∃ v, pass.read (.ofProperty (Assembly.groupField stem suffix)) = .ok v ∧
          parts.get? suffix = some v)
      (only : ∀ suffix, Assembly.groupField stem suffix ∉ pass.fieldNames →
        parts.get? suffix = none) : Gathered pass stem (.ok parts)
  /-- A field of the group cannot be read. -/
  | unread (suffix : String) (e : EvalError)
      (offered : Assembly.groupField stem suffix ∈ pass.fieldNames)
      (read : pass.read (.ofProperty (Assembly.groupField stem suffix)) = .error e) :
      Gathered pass stem (.error e)

theorem gathered (pass : Pass) (stem : String) :
    Gathered pass stem (pass.gather (.group stem)) := by
  rw [gather]
  cases done : pass.gatherGroup stem .unnamed pass.fieldNames with
  | error e =>
    obtain ⟨suffix, offered, read⟩ := exists_unread_of_gatherGroup done
    exact .unread suffix e offered read
  | ok parts =>
    exact .all parts (fun suffix => (get?_gatherGroup done suffix).1)
      (fun suffix => (get?_gatherGroup done suffix).2)

end Pass

/-- The claims of an entry are the right ones. -/
structure Entry.Faithful (e : Entry) : Prop where
  /-- A property that a source expression stands for is claimed. -/
  sources : ∀ s ∈ e.action.sources, ∀ name, s.tree = .property name → e.claims name = true
  /-- An assembly of a group claims the fields of the group, and these are what it gathers. -/
  group : ∀ stem path assembler, e.action = .assembled (.group stem) path assembler →
    (∀ name, e.claims name = true ↔ ∃ suffix, name = Assembly.groupField stem suffix) ∧
      ∀ pass : Pass, pass.Gathered stem (pass.gather (.group stem))

/-- Every entry claims the right fields. -/
theorem Entry.faithful (e : Entry) : e.Faithful where
  sources _ source _ plain := Action.claims_of_source source plain
  group stem path assembler acts := by
    refine ⟨fun name => ?_, fun pass => pass.gathered stem⟩
    rw [Entry.claims, acts]
    exact Option.isSome_iff_exists.trans
      (exists_congr fun _ => Assembly.suffix?_eq_some_iff)

end Remap
