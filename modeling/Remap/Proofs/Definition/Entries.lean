import Remap.Proofs.Definition.Validity
import Remap.Proofs.Mapping.Registration
import Remap.Regex.Reader

/-!
# The entries of a definition

Which entries the mapper of a definition has, read off its rules. Each rule makes one entry, in the
order of the rules, except for those that only say how records become other records and for those
that repeat an earlier rule. A rule with a definition inside never repeats one, since the definition
becomes a nested mapper of its own.

Main statement: a definition is built exactly if it is valid, and then its entries stand for its
kept rules one by one.
-/

namespace Remap

namespace RuleOf

variable {δ : Type}

/-- The rule without blanks around its texts, if it has no definition inside. -/
def trimmed? : RuleOf δ → Option (RuleOf Empty)
  | .field source target transform condition =>
    some (.field (Text.trim source) (Text.trim target) transform (condition.map Text.trim))
  | .assemble sources target assembler condition =>
    some (.assemble (sources.map Text.trim) (Text.trim target) assembler
      (condition.map Text.trim))
  | .nestedFields stem target assembler condition =>
    some (.nestedFields stem (Text.trim target) assembler (condition.map Text.trim))
  | .fanOut .. => none
  | .multiSource .. => none
  | .nested _ => none

/-- Two rules without definitions inside are the same but for blanks around their texts. -/
def repeats (rule earlier : RuleOf δ) : Bool :=
  rule.trimmed?.isSome && decide (rule.trimmed? = earlier.trimmed?)

/-- The rule says how records become other records. -/
def isNested : RuleOf δ → Bool
  | .nested _ => true
  | .field .. => false
  | .fanOut .. => false
  | .multiSource .. => false
  | .assemble .. => false
  | .nestedFields .. => false

theorem repeats_iff {rule earlier : RuleOf δ} :
    rule.repeats earlier = true ↔ ∃ r, rule.trimmed? = some r ∧ earlier.trimmed? = some r := by
  unfold repeats
  cases rule.trimmed? with
  | none => simp
  | some r => simp [eq_comm]

theorem repeats_trans {a b c : RuleOf δ} (first : a.repeats b = true)
    (second : b.repeats c = true) : a.repeats c = true := by
  obtain ⟨r, ha, hb⟩ := repeats_iff.mp first
  obtain ⟨r', hb', hc⟩ := repeats_iff.mp second
  rw [hb] at hb'
  cases hb'
  exact repeats_iff.mpr ⟨r, ha, hc⟩

/-- A rule that is repeated makes an entry. -/
theorem isNested_of_repeats {rule earlier : RuleOf δ} (h : rule.repeats earlier = true) :
    earlier.isNested = false := by
  obtain ⟨r, -, trimmed⟩ := repeats_iff.mp h
  cases earlier with
  | nested => cases trimmed
  | _ => rfl

end RuleOf

namespace Definition

/-! ## Kept rules -/

/-- The rules that make entries, with their positions: all but those that only say how records
become other records and those that repeat an earlier rule. -/
def keptRules (rules : List Rule) : List (Rule × Nat) :=
  rules.zipIdx.filter fun (rule, position) =>
    !rule.isNested && !(rules.take position).any rule.repeats

theorem keptRules_concat (before : List Rule) (rule : Rule) :
    keptRules (before ++ [rule]) = keptRules before ++
      if rule.isNested || before.any rule.repeats then [] else [(rule, before.length)] := by
  rw [keptRules, filter_zipIdx_concat fun earlier (r : Rule) => !r.isNested && !earlier.any r.repeats]
  congr 1
  by_cases nested : rule.isNested
  · simp [nested]
  · by_cases repeated : before.any rule.repeats
    · simp [nested, repeated]
    · simp [nested, repeated]

theorem mem_keptRules {rules : List Rule} {rule : Rule} {position : Nat}
    (kept : (rule, position) ∈ keptRules rules) : rule ∈ rules ∧ position < rules.length := by
  obtain ⟨-, bound, found⟩ := List.mem_zipIdx (List.mem_of_mem_filter kept)
  refine ⟨?_, by omega⟩
  rw [found]
  exact List.getElem_mem _

/-- Whatever repeats a rule repeats a kept one. -/
theorem exists_kept_of_repeats {rule : Rule} {rules : List Rule}
    (repeated : rules.any rule.repeats = true) :
    ∃ earlier position, (earlier, position) ∈ keptRules rules ∧ rule.repeats earlier = true := by
  induction rules using List.reverseRecOn generalizing rule with
  | nil => cases repeated
  | append_singleton before last ih =>
    rw [List.any_append, Bool.or_eq_true] at repeated
    have among {r : Rule} (found : before.any r.repeats = true) :
        ∃ earlier position, (earlier, position) ∈ keptRules (before ++ [last]) ∧
          r.repeats earlier = true := by
      obtain ⟨earlier, position, kept, same⟩ := ih found
      refine ⟨earlier, position, ?_, same⟩
      rw [keptRules_concat]
      exact List.mem_append_left _ kept
    rcases repeated with found | isLast
    · exact among found
    · have isLast : rule.repeats last = true := by simpa using isLast
      by_cases again : before.any last.repeats = true
      · obtain ⟨earlier, position, kept, same⟩ := among again
        exact ⟨earlier, position, kept, RuleOf.repeats_trans isLast same⟩
      · refine ⟨last, before.length, ?_, isLast⟩
        rw [Bool.not_eq_true] at again
        rw [keptRules_concat, RuleOf.isNested_of_repeats isLast, again]
        exact List.mem_append_right _ List.mem_cons_self

/-! ## Entries -/

/-- The entry is the one that the rule at a position stands for: its parts are read from the texts
of the rule, and its nested mapper is that of the definition inside the rule. -/
inductive StandsFor [Regex.Engine] (types : TypeRegistry) : Rule × Nat → Entry → Prop
  | field {source target : String} {transform : Option Transform} {condition : Option String}
    {position : Nat} {s : Expression} {t : Path} {guard : Option Expression}
    (reads : Expression.parse source = .ok s) (writes : Path.parse target = .ok t)
    (guarded : Option.Rel (fun text e => Expression.parse text = .ok e) condition guard) :
    StandsFor types (.field source target transform condition, position)
      ⟨.field s t (transform.map .transform), guard⟩
  | fanOut {source : String} {mapping : Definition} {condition : Option String} {position : Nat}
    {s : Expression} {inner : FieldMapper} {guard : Option Expression}
    (reads : Expression.parse source = .ok s) (built : buildWith types mapping = .ok inner)
    (guarded : Option.Rel (fun text e => Expression.parse text = .ok e) condition guard) :
    StandsFor types (.fanOut source mapping condition, position)
      ⟨.fanOut s (inner.nested position), guard⟩
  | multiSource {claimed : List String} {mapping : Definition} {condition : Option String}
    {position : Nat} {inner : FieldMapper} {guard : Option Expression}
    (built : buildWith types mapping = .ok inner)
    (guarded : Option.Rel (fun text e => Expression.parse text = .ok e) condition guard) :
    StandsFor types (.multiSource claimed mapping condition, position)
      ⟨.whole claimed (inner.nested position), guard⟩
  | assemble {sources : List String} {target : String} {assembler : Transform}
    {condition : Option String} {position : Nat} {ss : List Expression} {t : Path}
    {guard : Option Expression}
    (reads : List.Forall₂ (fun text e => Expression.parse text = .ok e) sources ss)
    (writes : Path.parse target = .ok t)
    (guarded : Option.Rel (fun text e => Expression.parse text = .ok e) condition guard) :
    StandsFor types (.assemble sources target assembler condition, position)
      ⟨.assembled (.fields ss) t (.transform assembler), guard⟩
  | nestedFields {stem target : String} {assembler : Transform} {condition : Option String}
    {position : Nat} {t : Path} {guard : Option Expression} (writes : Path.parse target = .ok t)
    (guarded : Option.Rel (fun text e => Expression.parse text = .ok e) condition guard) :
    StandsFor types (.nestedFields stem target assembler condition, position)
      ⟨.assembled (.group stem) t (.transform assembler), guard⟩

theorem any_eq_of_forall₂ {α β : Type} {R : α → β → Prop} {p : α → Bool} {q : β → Bool}
    {as : List α} {bs : List β} (alike : ∀ a b, a ∈ as → R a b → p a = q b)
    (related : List.Forall₂ R as bs) : as.any p = bs.any q := by
  induction related with
  | nil => rfl
  | cons first _ ih =>
    rw [List.any_cons, List.any_cons, alike _ _ List.mem_cons_self first,
      ih fun a b member => alike a b (List.mem_cons_of_mem _ member)]

variable {types : TypeRegistry}

/-- Entries of rules at different positions are the same exactly if one rule repeats the other. -/
theorem StandsFor.same_iff [Regex.Engine] {rule rule' : Rule} {position position' : Nat}
    {e e' : Entry}
    (stands : StandsFor types (rule, position) e) (stands' : StandsFor types (rule', position') e')
    (apart : position ≠ position') : e.same e' = true ↔ rule'.repeats rule = true := by
  rw [RuleOf.repeats_iff]
  cases stands with
  | field reads writes guarded =>
    cases stands' with
    | field reads' writes' guarded' =>
      simp only [Entry.same, Action.same, Bool.and_eq_true, beq_iff_eq,
        Expression.same_iff_of_parse reads reads', Path.eq_iff_of_parse writes writes',
        Converter.same?_transform, Entry.sameCondition_iff_of_parse guarded guarded',
        RuleOf.trimmed?, Option.some.injEq, exists_eq_left', RuleOf.field.injEq, and_assoc]
    | _ => simp [Entry.same, Action.same, RuleOf.trimmed?]
  | fanOut reads built guarded =>
    cases stands' with
    | fanOut reads' built' guarded' =>
      have other : (position == position') = false := beq_eq_false_iff_ne.mpr apart
      simp [Entry.same, Action.same, FieldMapper.nested, other, RuleOf.trimmed?]
    | _ => simp [Entry.same, Action.same, RuleOf.trimmed?]
  | multiSource built guarded =>
    cases stands' with
    | multiSource built' guarded' =>
      have other : (position == position') = false := beq_eq_false_iff_ne.mpr apart
      simp [Entry.same, Action.same, FieldMapper.nested, other, RuleOf.trimmed?]
    | _ => simp [Entry.same, Action.same, RuleOf.trimmed?]
  | assemble reads writes guarded =>
    cases stands' with
    | assemble reads' writes' guarded' =>
      simp only [Entry.same, Action.same, Assembly.same, Converter.same, Bool.and_eq_true,
        beq_iff_eq, Expression.map_text_of_parse reads, Expression.map_text_of_parse reads',
        Path.eq_iff_of_parse writes writes', Transform.same_iff,
        Entry.sameCondition_iff_of_parse guarded guarded', RuleOf.trimmed?, Option.some.injEq,
        exists_eq_left', RuleOf.assemble.injEq, and_assoc]
    | nestedFields => simp [Entry.same, Action.same, Assembly.same, RuleOf.trimmed?]
    | _ => simp [Entry.same, Action.same, RuleOf.trimmed?]
  | nestedFields writes guarded =>
    cases stands' with
    | nestedFields writes' guarded' =>
      simp only [Entry.same, Action.same, Assembly.same, Converter.same, Bool.and_eq_true,
        beq_iff_eq, Path.eq_iff_of_parse writes writes', Transform.same_iff,
        Entry.sameCondition_iff_of_parse guarded guarded', RuleOf.trimmed?, Option.some.injEq,
        exists_eq_left', RuleOf.nestedFields.injEq, and_assoc]
    | assemble => simp [Entry.same, Action.same, Assembly.same, RuleOf.trimmed?]
    | _ => simp [Entry.same, Action.same, RuleOf.trimmed?]

/-- A rule that is added makes no entry if it only says how records become other records, and else
adds the one that it stands for. -/
theorem entries_of_addRule [Regex.Engine] {rule : Rule} {m m' : FieldMapper} {position : Nat}
    (added : addRule types m position rule = .ok m') :
    rule.isNested = true ∧ m'.entries = m.entries ∨
      rule.isNested = false ∧ ∃ e, StandsFor types (rule, position) e ∧ m' = m.addEntry e := by
  cases rule with
  | field =>
    rw [addRule] at added
    obtain ⟨s, t, c, reads, writes, guarded, rfl⟩ := FieldMapper.addField_eq_ok.mp added
    exact .inr ⟨rfl, _, .field (FieldMapper.readSource_eq_ok.mp reads)
      (FieldMapper.readTarget_eq_ok.mp writes) (FieldMapper.readCondition_eq_ok.mp guarded), rfl⟩
  | fanOut source mapping condition =>
    rw [addRule] at added
    obtain ⟨inner, built, added⟩ := bind_eq_ok.mp added
    obtain ⟨s, c, reads, guarded, rfl⟩ := FieldMapper.addFanOut_eq_ok.mp added
    exact .inr ⟨rfl, _, .fanOut (FieldMapper.readSource_eq_ok.mp reads) built
      (FieldMapper.readCondition_eq_ok.mp guarded), rfl⟩
  | multiSource claimed mapping condition =>
    rw [addRule] at added
    obtain ⟨inner, built, added⟩ := bind_eq_ok.mp added
    obtain ⟨c, guarded, rfl⟩ := FieldMapper.addWhole_eq_ok.mp added
    exact .inr ⟨rfl, _, .multiSource built (FieldMapper.readCondition_eq_ok.mp guarded), rfl⟩
  | assemble =>
    rw [addRule] at added
    obtain ⟨ss, t, c, reads, writes, guarded, rfl⟩ := FieldMapper.addAssembled_eq_ok.mp added
    exact .inr ⟨rfl, _, .assemble (FieldMapper.readSources_eq_ok.mp reads)
      (FieldMapper.readTarget_eq_ok.mp writes) (FieldMapper.readCondition_eq_ok.mp guarded), rfl⟩
  | nestedFields =>
    rw [addRule] at added
    obtain ⟨-, t, c, writes, guarded, rfl⟩ := FieldMapper.addGroup_eq_ok.mp added
    exact .inr ⟨rfl, _, .nestedFields (FieldMapper.readTarget_eq_ok.mp writes)
      (FieldMapper.readCondition_eq_ok.mp guarded), rfl⟩
  | nested mapping =>
    rw [addRule] at added
    obtain ⟨_, -, added⟩ := bind_eq_ok.mp added
    obtain ⟨inner, -, added⟩ := bind_eq_ok.mp added
    obtain ⟨_, _, -, rfl⟩ := FieldMapper.addNested_eq_ok.mp added
    exact .inl ⟨rfl, rfl⟩

/-- Entries that stand for rules have an entry like that of one more rule exactly if the rule
repeats one of them. -/
theorem any_same_iff [Regex.Engine] {before : List Rule} {es : List Entry} {rule : Rule} {e : Entry}
    (stand : List.Forall₂ (StandsFor types) (keptRules before) es)
    (stands : StandsFor types (rule, before.length) e) :
    es.any (·.same e) = before.any rule.repeats := by
  have kept : es.any (·.same e) = (keptRules before).any fun (r, _) => rule.repeats r := by
    refine (any_eq_of_forall₂ ?_ stand).symm
    rintro ⟨r, i⟩ e' member stands'
    have apart : i ≠ before.length := Nat.ne_of_lt (mem_keptRules member).2
    rw [Bool.eq_iff_iff]
    exact (stands'.same_iff stands apart).symm
  rw [kept, Bool.eq_iff_iff]
  constructor
  · intro found
    obtain ⟨⟨r, i⟩, member, repeated⟩ := List.any_eq_true.mp found
    exact List.any_eq_true.mpr ⟨r, (mem_keptRules member).1, repeated⟩
  · intro found
    obtain ⟨earlier, i, member, repeated⟩ := exists_kept_of_repeats found
    exact List.any_eq_true.mpr ⟨(earlier, i), member, repeated⟩

/-- Entries that stand for the kept rules still do after one more rule. -/
theorem entries_stand_addRule [Regex.Engine] {before : List Rule} {rule : Rule} {m m' : FieldMapper}
    (stand : List.Forall₂ (StandsFor types) (keptRules before) m.entries)
    (added : addRule types m before.length rule = .ok m') :
    List.Forall₂ (StandsFor types) (keptRules (before ++ [rule])) m'.entries := by
  rw [keptRules_concat]
  obtain ⟨nested, same⟩ | ⟨entry, e, stands, rfl⟩ := entries_of_addRule added
  · rw [nested, same]
    simpa using stand
  · rw [entry, Bool.false_or, ← any_same_iff stand stands, FieldMapper.addEntry]
    by_cases repeated : m.entries.any (·.same e) = true
    · simpa [repeated] using stand
    · simp only [if_neg repeated]
      exact List.rel_append stand (.cons stands .nil)

theorem entries_stand_addRules [Regex.Engine] (before : List Rule) {rules : List Rule}
    {m m' : FieldMapper} (stand : List.Forall₂ (StandsFor types) (keptRules before) m.entries)
    (added : addRules types m before.length rules = .ok m') :
    List.Forall₂ (StandsFor types) (keptRules (before ++ rules)) m'.entries := by
  induction rules generalizing before m with
  | nil =>
    rw [addRules] at added
    cases added
    rwa [List.append_nil]
  | cons rule rest ih =>
    rw [addRules] at added
    obtain ⟨mid, first, others⟩ := bind_eq_ok.mp added
    have onward := ih _ (entries_stand_addRule stand first) (by simpa using others)
    rwa [List.append_assoc, List.singleton_append] at onward

/-- A definition is built exactly if it is valid. The entries of its mapper then stand, one by one
and in order, for its rules, but for those that only say how records become other records and those
that repeat an earlier rule. -/
theorem build_iff_valid [Regex.Engine] (d : Definition) :
    ((∃ m, d.build = .ok m) ↔ d.Valid) ∧
      ∀ m, d.build = .ok m → ∃ types, d.typeRegistry = .ok types ∧
        List.Forall₂ (StandsFor types) (keptRules d.rules) m.entries := by
  refine ⟨d.exists_build_iff, ?_⟩
  intro m built
  obtain ⟨types, registered, built⟩ := bind_eq_ok.mp built
  obtain ⟨name, sourceType, targetType, autoMapping, policy, excluded, declared, rules⟩ := d
  rw [buildWith] at built
  exact ⟨types, registered, entries_stand_addRules [] .nil built⟩

end Definition

namespace Shipment

/-- Labels a parcel twice in the same way and twice by mappings of its own. -/
def labelling : Definition where
  rules := [.field "weight" "mass" none none, .field " weight " "mass" none none,
    .multiSource ["sender, city"] {} none, .multiSource ["sender, city"] {} none]

/-- The second label is left out, both mappings stay. -/
theorem labelling_has_three_entries :
    ∃ m, labelling.build = .ok m ∧ m.entries.length = 3 := by
  have accepted : labelling.build.isOk = true := by decide +kernel
  cases built : labelling.build with
  | error => rw [built] at accepted; cases accepted
  | ok m =>
    obtain ⟨types, -, stand⟩ := labelling.build_iff_valid.2 m built
    have kept : (Definition.keptRules labelling.rules).length = 3 := by decide +kernel
    exact ⟨m, rfl, stand.length_eq ▸ kept⟩

end Shipment

end Remap
