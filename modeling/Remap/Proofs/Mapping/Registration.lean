import Mathlib.Data.List.Induction
import Remap.Proofs.Mapping.Sameness
import Remap.Regex.Reader

/-!
# Registered entries

A mapper is set up by calls that each add an entry. A call whose texts cannot be read fails and adds
nothing, and an entry that equals an earlier one is left out.

Entries are equal when they have one identity: what of an entry is compared, with nothing else.
Equality is therefore an equivalence, and what is left of a run of calls can be said without the
mapper.

Main statement: after any calls the entries are those of the calls that succeed, in order, without
those that equal an earlier one; so no two are equal, and a call made again changes nothing.
-/

namespace Remap

/-! ## Identity -/

/-- What of a converter is compared: a transform by its structure, any other function by its tag. -/
inductive Converter.Identity
  | transform (t : Transform)
  | custom (tag : Nat)

/-- The identity of a converter. -/
def Converter.identity : Converter → Identity
  | .transform t => .transform t
  | .custom tag _ => .custom tag

/-- What of an assembly is compared: the texts of the expressions, or the stem of the group. -/
inductive Assembly.Identity
  | fields (texts : List String)
  | group (stem : String)

/-- The identity of an assembly. -/
def Assembly.identity : Assembly → Identity
  | .fields sources => .fields (sources.map (·.text))
  | .group stem => .group stem

/-- What of an action is compared: its kind, the texts of its expressions, its path, its converter,
and the tag of its nested mapper. -/
inductive Action.Identity
  | field (source : String) (target : Path) (converter : Option Converter.Identity)
  | fanOut (source : String) (mapper : Nat)
  | whole (claimed : List String) (mapper : Nat)
  | assembled (sources : Assembly.Identity) (target : Path) (assembler : Converter.Identity)

/-- The identity of an action. -/
def Action.identity : Action → Identity
  | .field source target converter =>
    .field source.text target (converter.map Converter.identity)
  | .fanOut source mapper => .fanOut source.text mapper.tag
  | .whole claimed mapper => .whole claimed mapper.tag
  | .assembled sources target assembler =>
    .assembled sources.identity target assembler.identity

/-- The identity of an entry: that of its action, and the text of its guard. -/
def Entry.identity (e : Entry) : Action.Identity × Option String :=
  (e.action.identity, e.condition.map (·.text))

theorem Converter.same_iff_identity {a b : Converter} :
    a.same b = true ↔ a.identity = b.identity := by
  cases a <;> cases b <;> simp [same, identity, Transform.same_iff]

theorem Converter.same?_iff_identity {a b : Option Converter} :
    same? a b = true ↔ a.map identity = b.map identity := by
  cases a <;> cases b <;> simp [same?, same_iff_identity]

theorem Assembly.same_iff_identity {a b : Assembly} :
    a.same b = true ↔ a.identity = b.identity := by
  cases a <;> cases b <;> simp [same, identity]

theorem Action.same_iff_identity {a b : Action} : a.same b = true ↔ a.identity = b.identity := by
  cases a <;> cases b <;>
    simp [same, identity, Expression.same, Converter.same_iff_identity,
      Converter.same?_iff_identity, Assembly.same_iff_identity, and_assoc]

theorem Entry.sameCondition_iff_text {a b : Option Expression} :
    sameCondition a b = true ↔ a.map (·.text) = b.map (·.text) := by
  cases a <;> cases b <;> simp [sameCondition, Expression.same]

namespace Entry

/-- Entries are equal exactly if their identities are. -/
theorem same_iff_identity {a b : Entry} : a.same b = true ↔ a.identity = b.identity := by
  rw [same, Bool.and_eq_true, Action.same_iff_identity, sameCondition_iff_text, identity, identity,
    Prod.mk.injEq]

theorem same_refl (e : Entry) : e.same e = true := same_iff_identity.mpr rfl

theorem same_comm (a b : Entry) : a.same b = b.same a := by
  rw [Bool.eq_iff_iff, same_iff_identity, same_iff_identity, eq_comm]

theorem same_trans {a b c : Entry} (first : a.same b = true) (second : b.same c = true) :
    a.same c = true :=
  same_iff_identity.mpr ((same_iff_identity.mp first).trans (same_iff_identity.mp second))

theorem same_equivalence : Equivalence fun a b : Entry => a.same b = true :=
  ⟨same_refl, fun {a b} same => by rwa [same_comm b a], same_trans⟩

end Entry

/-! ## First occurrences -/

/-- What a list keeps, judged by what stands before, when it gets one more member. -/
theorem filter_zipIdx_concat {α : Type} (keeps : List α → α → Bool) (before : List α) (a : α) :
    ((before ++ [a]).zipIdx.filter fun (b, i) => keeps ((before ++ [a]).take i) b) =
      (before.zipIdx.filter fun (b, i) => keeps (before.take i) b) ++
        if keeps before a then [(a, before.length)] else [] := by
  have earlier : (before.zipIdx.filter fun (b, i) => keeps ((before ++ [a]).take i) b) =
      before.zipIdx.filter fun (b, i) => keeps (before.take i) b := by
    refine List.filter_congr fun (b, i) member => ?_
    have inside : i ≤ before.length := by
      have := List.mem_zipIdx member
      omega
    simp only [List.take_append_of_le_length inside]
  rw [List.zipIdx_append, List.filter_append, earlier]
  congr 1
  by_cases kept : keeps before a <;> simp [kept]

/-- The entries without those that equal an earlier one. -/
def firstOccurrences (entries : List Entry) : List Entry :=
  (entries.zipIdx.filter fun (e, position) => !(entries.take position).any (·.same e)).map (·.1)

theorem firstOccurrences_concat (before : List Entry) (e : Entry) :
    firstOccurrences (before ++ [e]) =
      firstOccurrences before ++ if before.any (·.same e) then [] else [e] := by
  have grown :=
    filter_zipIdx_concat (fun earlier e => !earlier.any fun a => Entry.same a e) before e
  rw [firstOccurrences, grown, List.map_append]
  congr 1
  by_cases repeated : before.any (·.same e) <;> simp [repeated]

/-- Whatever equals an entry equals a first occurrence. -/
theorem any_same_firstOccurrences (entries : List Entry) (e : Entry) :
    (firstOccurrences entries).any (·.same e) = entries.any (·.same e) := by
  induction entries using List.reverseRecOn with
  | nil => rfl
  | append_singleton before last ih =>
    rw [firstOccurrences_concat, List.any_append, List.any_append, ih]
    by_cases repeated : before.any (·.same last) = true
    · rw [if_pos repeated, List.any_nil, Bool.or_false]
      by_cases same : last.same e = true
      · obtain ⟨earlier, member, alike⟩ := List.any_eq_true.mp repeated
        have found : before.any (·.same e) = true :=
          List.any_eq_true.mpr ⟨earlier, member, Entry.same_trans alike same⟩
        rw [found, Bool.true_or]
      · simp [same]
    · rw [if_neg repeated]

/-- No two first occurrences are equal. -/
theorem pairwise_firstOccurrences (entries : List Entry) :
    (firstOccurrences entries).Pairwise fun a b => a.same b = false := by
  induction entries using List.reverseRecOn with
  | nil => exact .nil
  | append_singleton before last ih =>
    rw [firstOccurrences_concat]
    split
    · rwa [List.append_nil]
    · next new =>
      rw [List.pairwise_append]
      refine ⟨ih, List.pairwise_singleton _ _, fun a member b isLast => ?_⟩
      rw [List.mem_singleton.mp isLast]
      rw [← any_same_firstOccurrences, Bool.not_eq_true, List.any_eq_false] at new
      exact Bool.eq_false_iff.mpr (new a member)

namespace FieldMapper

theorem entries_addEntry (m : FieldMapper) (e : Entry) :
    (m.addEntry e).entries = m.entries ++ if m.entries.any (·.same e) then [] else [e] := by
  unfold addEntry
  split
  · rw [List.append_nil]
  · rfl

/-! ## Calls -/

/-- A call that adds an entry to a mapper. -/
inductive Call
  | field (source target : String) (converter : Option Converter) (condition : Option String)
  | fanOut (source : String) (mapper : NestedMapper) (condition : Option String)
  | whole (claimed : List String) (mapper : NestedMapper) (condition : Option String)
  | assembled (sources : List String) (target : String) (assembler : Converter)
    (condition : Option String)
  | group (stem target : String) (assembler : Converter) (condition : Option String)

variable [Regex.Engine]

/-- What a call does to a mapper, unless it fails. -/
def register (m : FieldMapper) : Call → Except MappingError FieldMapper
  | .field source target converter condition => m.addField source target converter condition
  | .fanOut source mapper condition => m.addFanOut source mapper condition
  | .whole claimed mapper condition => m.addWhole claimed mapper condition
  | .assembled sources target assembler condition =>
    m.addAssembled sources target assembler condition
  | .group stem target assembler condition => m.addGroup stem target assembler condition

/-- The mapper after a call; one that fails leaves it as it was. -/
def afterCall (m : FieldMapper) (call : Call) : FieldMapper :=
  match m.register call with
  | .ok m' => m'
  | .error _ => m

/-- The mapper after calls one after the other. -/
def afterCalls (m : FieldMapper) (calls : List Call) : FieldMapper := calls.foldl afterCall m

/-- The entry that a call stands for, if its texts can be read. -/
def Call.entry : Call → Except MappingError Entry
  | .field source target converter condition => do
    let s ← readSource source
    let t ← readTarget target
    let guard ← readCondition condition
    return ⟨.field s t converter, guard⟩
  | .fanOut source mapper condition => do
    let s ← readSource source
    let guard ← readCondition condition
    return ⟨.fanOut s mapper, guard⟩
  | .whole claimed mapper condition => do
    let guard ← readCondition condition
    return ⟨.whole claimed mapper, guard⟩
  | .assembled sources target assembler condition => do
    let ss ← readSources sources
    let t ← readTarget target
    let guard ← readCondition condition
    return ⟨.assembled (.fields ss) t assembler, guard⟩
  | .group stem target assembler condition => do
    if stem.isEmpty then
      throw (.invalidConfiguration "The nested field prefix cannot be empty")
    let t ← readTarget target
    let guard ← readCondition condition
    return ⟨.assembled (.group stem) t assembler, guard⟩

/-- A call adds the entry that it stands for, or fails as its texts do. -/
theorem register_eq (m : FieldMapper) (call : Call) :
    m.register call = call.entry.map m.addEntry := by
  cases call with
  | field source target converter condition =>
    rw [register, addField, Call.entry]
    cases readSource source with
    | error => rfl
    | ok =>
      cases readTarget target with
      | error => rfl
      | ok => cases readCondition condition <;> rfl
  | fanOut source mapper condition =>
    rw [register, addFanOut, Call.entry]
    cases readSource source with
    | error => rfl
    | ok => cases readCondition condition <;> rfl
  | whole claimed mapper condition =>
    rw [register, addWhole, Call.entry]
    cases readCondition condition <;> rfl
  | assembled sources target assembler condition =>
    rw [register, addAssembled, Call.entry]
    cases readSources sources with
    | error => rfl
    | ok =>
      cases readTarget target with
      | error => rfl
      | ok => cases readCondition condition <;> rfl
  | group stem target assembler condition =>
    rw [register, addGroup, Call.entry]
    split
    · rfl
    · cases readTarget target with
      | error => rfl
      | ok => cases readCondition condition <;> rfl

theorem afterCall_of_entry {m : FieldMapper} {call : Call} {e : Entry}
    (entry : call.entry = .ok e) : m.afterCall call = m.addEntry e := by
  rw [afterCall, register_eq, entry]
  rfl

theorem afterCall_of_error {m : FieldMapper} {call : Call} {cause : MappingError}
    (failed : call.entry = .error cause) : m.afterCall call = m := by
  rw [afterCall, register_eq, failed]
  rfl

/-- The entries that the calls stand for, without those of the calls that fail. -/
def entriesOf (calls : List Call) : List Entry := calls.filterMap (·.entry.toOption)

variable {m : FieldMapper}

theorem afterCalls_concat (m : FieldMapper) (before : List Call) (call : Call) :
    m.afterCalls (before ++ [call]) = (m.afterCalls before).afterCall call := by
  rw [afterCalls, List.foldl_append]
  rfl

/-- Calls on a mapper without entries leave the first occurrences of their entries. -/
theorem entries_afterCalls (new : m.entries = []) (calls : List Call) :
    (m.afterCalls calls).entries = firstOccurrences (entriesOf calls) := by
  induction calls using List.reverseRecOn with
  | nil => exact new
  | append_singleton before call ih =>
    rw [afterCalls_concat, entriesOf, List.filterMap_append]
    cases entry : call.entry with
    | error cause =>
      rw [afterCall_of_error entry, ih]
      simp [entriesOf, entry, Except.toOption]
    | ok e =>
      have last : [call].filterMap (·.entry.toOption) = [e] := by simp [entry, Except.toOption]
      rw [afterCall_of_entry entry, entries_addEntry, ih, any_same_firstOccurrences, last,
        firstOccurrences_concat]
      rfl

/-- A call made again finds its entry there. -/
theorem afterCalls_again (new : m.entries = []) {calls : List Call} {call : Call}
    (made : call ∈ calls) : m.afterCalls (calls ++ [call]) = m.afterCalls calls := by
  rw [afterCalls_concat]
  cases entry : call.entry with
  | error cause => exact afterCall_of_error entry
  | ok e =>
    have stands : e ∈ entriesOf calls := List.mem_filterMap.mpr ⟨call, made, by rw [entry]; rfl⟩
    rw [afterCall_of_entry entry, addEntry, if_pos]
    rw [entries_afterCalls new, any_same_firstOccurrences]
    exact List.any_eq_true.mpr ⟨e, stands, e.same_refl⟩

/-- Registration keeps first occurrences. A call adds the entry that it stands for or fails; after
any calls on a mapper without entries, the entries are those of the calls that succeed, in order,
without those that equal an earlier one. Equality of entries is an equivalence, by their identities:
texts, paths, transforms, and the tags of other functions and of nested mappers. So no two entries
are equal, and a call made again adds nothing. -/
theorem entries_keep_first (m : FieldMapper) (new : m.entries = []) (calls : List Call) :
    (∀ m' call, register m' call = call.entry.map m'.addEntry) ∧
      (m.afterCalls calls).entries = firstOccurrences (entriesOf calls) ∧
      (Equivalence fun a b : Entry => a.same b = true) ∧
      (∀ a b : Entry, a.same b = true ↔ a.identity = b.identity) ∧
      ((m.afterCalls calls).entries.Pairwise fun a b => a.same b = false) ∧
      ∀ call ∈ calls, (m.afterCalls (calls ++ [call])).entries = (m.afterCalls calls).entries := by
  refine ⟨register_eq, entries_afterCalls new calls, Entry.same_equivalence,
    fun _ _ => Entry.same_iff_identity, ?_, fun call made => ?_⟩
  · rw [entries_afterCalls new calls]
    exact pairwise_firstOccurrences _
  · rw [afterCalls_again new made]

end FieldMapper

namespace Shipment

/-- Copies the port in capital letters, then fails to read a source, and copies the port again, with
blanks in its text and a transform of its own. -/
def portCalls : List FieldMapper.Call :=
  [.field "port" "harbor" (some (.transform .uppercase)) none,
    .field "port ==" "harbor" none none,
    .field " port " "harbor" (some (.transform .uppercase)) none]

/-- One entry is left of the three calls, and the first call made again changes nothing. -/
theorem port_is_registered_once :
    ({} : FieldMapper).entries = [] ∧
      (({} : FieldMapper).afterCalls portCalls).entries.map Entry.text = ["port -> harbor"] ∧
      (({} : FieldMapper).afterCalls
          (portCalls ++ [.field "port" "harbor" (some (.transform .uppercase)) none])).entries =
        (({} : FieldMapper).afterCalls portCalls).entries := by
  refine ⟨rfl, by decide +kernel, ?_⟩
  exact (FieldMapper.entries_keep_first {} rfl portCalls).2.2.2.2.2 _ List.mem_cons_self

end Shipment

end Remap
