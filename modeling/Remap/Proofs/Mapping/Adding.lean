import Mathlib.Data.List.Forall2
import Mathlib.Data.Option.Basic
import Remap.Mapping.Mapper
import Remap.Proofs.Fallible

/-!
# Adding to a mapper

What each way of adding to a mapper does: it reads its texts, which may fail, and then adds one
entry or one converter.
-/

namespace Remap

namespace FieldMapper

variable {m m' : FieldMapper}

/-- The entries of a mapper with one more entry are the old ones and perhaps the new one. -/
theorem mem_entries_addEntry {e new : Entry} (member : e ∈ (m.addEntry new).entries) :
    e ∈ m.entries ∨ e = new := by
  unfold addEntry at member
  split at member
  · exact .inl member
  · rcases List.mem_append.mp member with old | last
    · exact .inl old
    · exact .inr (List.mem_singleton.mp last)

@[simp] theorem viewOf_addEntry (m : FieldMapper) (e : Entry) :
    (m.addEntry e).viewOf = m.viewOf := by
  unfold addEntry
  split <;> rfl

@[simp] theorem conversions_addEntry (m : FieldMapper) (e : Entry) :
    (m.addEntry e).conversions = m.conversions := by
  unfold addEntry
  split <;> rfl

@[simp] theorem types_addEntry (m : FieldMapper) (e : Entry) : (m.addEntry e).types = m.types := by
  unfold addEntry
  split <;> rfl

section

variable [Regex.Engine]

/-- The guard that was read for an entry is the one that the entry has. -/
theorem condition_of_addEntry {text : Option String} {action : Action}
    {condition : Option Expression} {e : Entry}
    (read : readCondition text = .ok condition)
    (member : e ∈ (m.addEntry ⟨action, condition⟩).entries) :
    e ∈ m.entries ∨ readCondition text = .ok e.condition := by
  refine (mem_entries_addEntry member).imp_right ?_
  rintro rfl
  exact read

theorem readSource_eq_ok {text : String} {e : Expression} :
    readSource text = .ok e ↔ Expression.parse text = .ok e := by
  unfold readSource
  cases Expression.parse text <;> simp [Except.mapError]

theorem readTarget_eq_ok {text : String} {path : Path} :
    readTarget text = .ok path ↔ Path.parse text = .ok path := by
  unfold readTarget
  cases Path.parse text <;> simp [Except.mapError]

/-- A guard is read if there is none or its text is an expression. -/
theorem readCondition_eq_ok {condition : Option String} {guard : Option Expression} :
    readCondition condition = .ok guard ↔
      Option.Rel (fun text e => Expression.parse text = .ok e) condition guard := by
  cases condition with
  | none => cases guard <;> simp [readCondition]
  | some text =>
    cases guard <;> cases parsed : Expression.parse text <;> simp [readCondition, parsed]

theorem readSources_eq_ok {texts : List String} {es : List Expression} :
    readSources texts = .ok es ↔
      List.Forall₂ (fun text e => Expression.parse text = .ok e) texts es := by
  induction texts generalizing es with
  | nil => simp [readSources, eq_comm]
  | cons text rest ih =>
    simp only [readSources, bind_eq_ok, pure_eq_ok, readSource_eq_ok, ih,
      List.forall₂_cons_left_iff]
    constructor
    · rintro ⟨e, parsed, es', all, rfl⟩
      exact ⟨e, es', parsed, all, rfl⟩
    · rintro ⟨e, es', parsed, all, rfl⟩
      exact ⟨e, parsed, es', all, rfl⟩

/-- A guard that was read stands for a text. -/
theorem exists_of_readCondition {condition : Option String} {guard : Expression}
    (read : readCondition condition = .ok (some guard)) :
    ∃ text, condition = some text ∧ Expression.parse text = .ok guard := by
  cases readCondition_eq_ok.mp read with
  | some parsed => exact ⟨_, rfl, parsed⟩

theorem addField_eq_ok {source target : String} {converter : Option Converter}
    {condition : Option String} :
    m.addField source target converter condition = .ok m' ↔
      ∃ s t c, readSource source = .ok s ∧ readTarget target = .ok t ∧
        readCondition condition = .ok c ∧ m' = m.addEntry ⟨.field s t converter, c⟩ := by
  simp only [addField, bind_eq_ok, pure_eq_ok, exists_and_left]

theorem addFanOut_eq_ok {source : String} {mapper : NestedMapper} {condition : Option String} :
    m.addFanOut source mapper condition = .ok m' ↔
      ∃ s c, readSource source = .ok s ∧ readCondition condition = .ok c ∧
        m' = m.addEntry ⟨.fanOut s mapper, c⟩ := by
  simp only [addFanOut, bind_eq_ok, pure_eq_ok, exists_and_left]

theorem addWhole_eq_ok {claimed : List String} {mapper : NestedMapper}
    {condition : Option String} :
    m.addWhole claimed mapper condition = .ok m' ↔
      ∃ c, readCondition condition = .ok c ∧ m' = m.addEntry ⟨.whole claimed mapper, c⟩ := by
  simp only [addWhole, bind_eq_ok, pure_eq_ok]

theorem addAssembled_eq_ok {sources : List String} {target : String} {assembler : Converter}
    {condition : Option String} :
    m.addAssembled sources target assembler condition = .ok m' ↔
      ∃ ss t c, readSources sources = .ok ss ∧ readTarget target = .ok t ∧
        readCondition condition = .ok c ∧
        m' = m.addEntry ⟨.assembled (.fields ss) t assembler, c⟩ := by
  simp only [addAssembled, bind_eq_ok, pure_eq_ok, exists_and_left]

theorem addGroup_eq_ok {stem target : String} {assembler : Converter}
    {condition : Option String} :
    m.addGroup stem target assembler condition = .ok m' ↔
      stem.isEmpty = false ∧ ∃ t c, readTarget target = .ok t ∧ readCondition condition = .ok c ∧
        m' = m.addEntry ⟨.assembled (.group stem) t assembler, c⟩ := by
  cases empty : stem.isEmpty with
  | true => simp [addGroup, empty, bind, Except.bind, throw, throwThe, MonadExceptOf.throw]
  | false =>
    simp only [addGroup, empty, Bool.false_eq_true, if_false, bind_eq_ok, pure_eq_ok,
      exists_and_left, true_and]

end

/-- A nested mapper is added as a converter between the kinds that it knows, of which the second
is a kind of record. -/
theorem addNested_eq_ok {mapper : NestedMapper} {targetFor : Value → FieldType → Value} :
    m.addNested mapper targetFor = .ok m' ↔
      ∃ source name, mapper.keys? = some (source, .record name) ∧
        m' = { m with conversions :=
          m.conversions.add source (.record name) (mapper.toConverter targetFor) } := by
  unfold addNested addNestedBetween
  cases keys : mapper.keys? with
  | none => simp
  | some pair =>
    obtain ⟨source, target⟩ := pair
    cases target with
    | record name => simp [eq_comm, and_assoc]
    | _ => simp

end FieldMapper

end Remap
