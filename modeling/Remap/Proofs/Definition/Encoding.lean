import Remap.Definition.Decode
import Remap.Proofs.Datum.Tables

/-!
# Definitions written as data and read back

What is written of a definition reads back as that definition: a field that is left out is read as
the value for which it was left out. The parts outside the rules are read through a form, so this is
shown for every form whose parts show what they stand for. Rules and transforms are read from data;
there the proof follows the tree of definitions.
-/

namespace Remap

/-! ## Tables with fields left out -/

namespace Datum

/-- A truth value that is written, since it is not the usual one. -/
def unusual? (b : Bool) : Option Bool := if b then none else some false

/-- Items that are written, since there are some. -/
def nonempty? {α : Type} : List α → Option (List α)
  | [] => none
  | items => some items

theorem textEntry?_eq (name : String) (o : Option String) :
    textEntry? name o = ((o.map Datum.text).map fun d => (name, d)).toList := by
  cases o <;> rfl

theorem listEntry?_eq {α : Type} (name : String) (encode : α → Datum) (items : List α) :
    listEntry? name (items.map encode) =
      (((nonempty? items).map fun items => Datum.list (items.map encode)).map
        fun d => (name, d)).toList := by
  cases items <;> rfl

theorem flagEntry?_eq (name : String) (b : Bool) :
    flagEntry? name b = (((unusual? b).map Datum.boolean).map fun d => (name, d)).toList := by
  cases b <;> rfl

/-- A table is written field by field. -/
theorem tableOf_eq (fields : List (String × Option Datum)) :
    tableOf (fields.map fun (name, slot) => (slot.map fun d => (name, d)).toList) =
      .table (rows fields) := by
  unfold tableOf rows
  induction fields with
  | nil => rfl
  | cons field fields ih =>
    obtain ⟨name, slot⟩ := field
    injection ih with ih
    cases slot <;> simp [ih]

end Datum

theorem Transform.entry?_eq (name : String) (o : Option Transform) :
    Transform.entry? name o = ((o.map Transform.encode).map fun d => (name, d)).toList := by
  cases o <;> rfl

/-! ## Declarations -/

section Declarations

variable {m : Type → Type} [Monad m] [LawfulMonad m] {α : Type} {shows : α → Datum → Prop}
  {f : Form m α}

/-- Items that are written one by one are found one by one. -/
theorem Form.Lawful.list_map (lawful : f.Lawful shows) {β : Type} {read : α → m β}
    {encode : β → Datum} (finds : ∀ b, Finds shows read (encode b) b) (bs : List β) :
    Finds shows (f.list read) (.list (bs.map encode)) bs :=
  lawful.list (List.forall₂_map_left_iff.mpr (List.forall₂_same.mpr fun b _ => finds b))

/-- The fields of a field declaration. -/
def FieldDefinition.slots (d : FieldDefinition) : List (String × Option Datum) :=
  [("name", some (.text d.name)), ("type", some (.text d.kind.word)), ("of", d.of.map .text),
    ("writable", (Datum.unusual? d.writable).map .boolean)]

theorem FieldDefinition.encode_eq (d : FieldDefinition) :
    d.encode = .table (Datum.rows d.slots) := by
  rw [encode, Datum.textEntry?_eq, Datum.flagEntry?_eq]
  exact Datum.tableOf_eq d.slots

theorem FieldKind.choices_word (kind : FieldKind) : ∃ k,
    (choices.map (·.1)).idxOf? kind.word = some k ∧ choices[k]? = some (kind.word, kind) := by
  cases kind <;> exact ⟨_, rfl, rfl⟩

theorem FailurePolicy.choices_word (policy : FailurePolicy) : ∃ k,
    (choices.map (·.1)).idxOf? policy.word = some k ∧ choices[k]? = some (policy.word, policy) := by
  cases policy <;> exact ⟨_, rfl, rfl⟩

theorem FieldDefinition.finds (lawful : f.Lawful shows) (d : FieldDefinition) :
    Form.Finds shows (FieldDefinition.read f) d.encode d := by
  intro a shown
  rw [encode_eq] at shown
  obtain ⟨k, position, choice⟩ := d.kind.choices_word
  have found : Form.Found shows (parts f) d.slots
      [some fun x => { x with name := d.name }, some fun x => { x with kind := d.kind },
        d.of.map fun of x => { x with of := some of },
        (Datum.unusual? d.writable).map fun writable x => { x with writable }] :=
    .present ((lawful.text d.name).map _) <|
      .present ((lawful.oneOf position choice).map _) <|
      .optional _ (fun of => (lawful.optionalText of).map _) <|
      .optional _ (fun writable => (lawful.flag writable).map _) .nil
  have read := lawful.fields found (show ["name", "type", "of", "writable"].Nodup by decide) a shown
  simp only [FieldDefinition.read, read, pure_bind]
  obtain ⟨name, kind, of, writable⟩ := d
  cases of <;> cases writable <;> rfl

/-- The fields of a type declaration. -/
def TypeDefinition.slots (d : TypeDefinition) : List (String × Option Datum) :=
  [("name", some (.text d.name)), ("fields", some (.list (d.fields.map (·.encode))))]

theorem TypeDefinition.finds (lawful : f.Lawful shows) (d : TypeDefinition) :
    Form.Finds shows (TypeDefinition.read f) d.encode d := by
  intro a shown
  have found : Form.Found shows (parts f) d.slots
      [some fun x => { x with name := d.name }, some fun x => { x with fields := d.fields }] :=
    .present ((lawful.text d.name).map _) <|
      .present ((lawful.list_map (FieldDefinition.finds lawful) d.fields).map _) .nil
  have read := lawful.fields found (show ["name", "fields"].Nodup by decide) a shown
  simp only [TypeDefinition.read, read, pure_bind]
  rfl

namespace Definition

/-- The fields of a definition. -/
def slots (d : Definition) : List (String × Option Datum) :=
  [("name", some (.text d.name)), ("source_type", d.sourceType.map .text),
    ("target_type", d.targetType.map .text),
    ("auto_mapping", (Datum.unusual? d.autoMapping).map .boolean),
    ("failure_policy", some (.text d.policy.word)),
    ("excluded_fields", (Datum.nonempty? d.excluded).map fun texts => .list (texts.map .text)),
    ("types", (Datum.nonempty? d.types).map fun types => .list (types.map (·.encode))),
    ("rules", some (.list (encodeRules d.rules)))]

theorem encode_eq (d : Definition) : d.encode = .table (Datum.rows d.slots) := by
  obtain ⟨name, sourceType, targetType, autoMapping, policy, excluded, types, rules⟩ := d
  rw [encode, Datum.textEntry?_eq, Datum.textEntry?_eq, Datum.flagEntry?_eq, Datum.listEntry?_eq,
    Datum.listEntry?_eq]
  exact Datum.tableOf_eq
    (slots ⟨name, sourceType, targetType, autoMapping, policy, excluded, types, rules⟩)

/-- A definition is found, with what becomes of its rules when they are found. -/
theorem finds (lawful : f.Lawful shows) (d : Definition) {rules : α → m (Definition → Definition)}
    {change : Definition → Definition}
    (rulesFound : Form.Finds shows rules (.list (encodeRules d.rules)) change) :
    Form.Finds shows (read f rules) d.encode (change { d with rules := [] }) := by
  intro a shown
  rw [encode_eq] at shown
  obtain ⟨k, position, choice⟩ := d.policy.choices_word
  have found : Form.Found shows (parts f rules) d.slots
      [some fun x => { x with name := d.name },
        d.sourceType.map fun sourceType x => { x with sourceType := some sourceType },
        d.targetType.map fun targetType x => { x with targetType := some targetType },
        (Datum.unusual? d.autoMapping).map fun autoMapping x => { x with autoMapping },
        some fun x => { x with policy := d.policy },
        (Datum.nonempty? d.excluded).map fun excluded x => { x with excluded },
        (Datum.nonempty? d.types).map fun types x => { x with types }, some change] :=
    .present ((lawful.text d.name).map _) <|
      .optional _ (fun sourceType => (lawful.optionalText sourceType).map _) <|
      .optional _ (fun targetType => (lawful.optionalText targetType).map _) <|
      .optional _ (fun autoMapping => (lawful.flag autoMapping).map _) <|
      .present ((lawful.oneOf position choice).map _) <|
      .optional _ (fun excluded => (lawful.list_map lawful.text excluded).map _) <|
      .optional _ (fun types => (lawful.list_map (TypeDefinition.finds lawful) types).map _) <|
      .present rulesFound .nil
  have read := lawful.fields found (show ["name", "source_type", "target_type", "auto_mapping",
    "failure_policy", "excluded_fields", "types", "rules"].Nodup by decide) a shown
  simp only [Definition.read, read, pure_bind]
  obtain ⟨name, sourceType, targetType, autoMapping, policy, excluded, types, rules⟩ := d
  cases sourceType <;> cases targetType <;> cases autoMapping <;> cases excluded <;>
    cases types <;> rfl

end Definition

end Declarations

/-! ## Transforms -/

namespace Transform

theorem optionalText_map (o : Option String) : optionalText (o.map .text) = some o := by
  cases o <;> rfl

theorem optionalText_datum (o : Option String) :
    optionalText (some (optionalDatum o)) = some o := by
  cases o <;> rfl

theorem boundedCount?_natural {limit n : Nat} (below : n < limit) :
    boundedCount? limit (.natural n) = some n := by
  simp [boundedCount?, Datum.count?, below]

mutual

/-- A transform that is written reads back. -/
theorem decode_encode (lenient : Bool) : ∀ t : Transform, decode lenient t.encode = some t
  | .uppercase => rfl
  | .lowercase => rfl
  | .trim => rfl
  | .defaultTo _ => rfl
  | .numberFormat decimals separator => by
    change (do
      let n ← boundedCount? (Nat.pow 2 32) (.natural decimals.toNat)
      let separator ← optionalText (some (optionalDatum separator))
      return Transform.numberFormat (.ofNat n) separator) = some (.numberFormat decimals separator)
    rw [boundedCount?_natural decimals.toNat_lt, optionalText_datum]
    exact congrArg (fun n => some (Transform.numberFormat n separator)) (UInt32.ofNat_toNat)
  | .split delimiter index => by
    change (do
      let n ← boundedCount? (Nat.pow 2 64) (.natural index.toNat)
      return Transform.split delimiter (.ofNat n)) = some (.split delimiter index)
    rw [boundedCount?_natural index.toNat_lt]
    exact congrArg (fun n => some (Transform.split delimiter n)) (UInt64.ofNat_toNat)
  | .concatenate separator => by
    change (do return Transform.concatenate (← optionalText (some (optionalDatum separator)))) =
      some (Transform.concatenate separator)
    rw [optionalText_datum]
    rfl
  | .chain transforms => by
    change (do return Transform.chain (← decodeAll (encodeAll transforms))) =
      some (Transform.chain transforms)
    rw [decodeAll_encodeAll transforms]
    rfl

theorem decodeAll_encodeAll : ∀ ts : List Transform, decodeAll (encodeAll ts) = some ts
  | [] => rfl
  | t :: rest => by
    rw [encodeAll, decodeAll, decode_encode true t, decodeAll_encodeAll rest]
    rfl

end

end Transform

/-! ## Rules -/

namespace Definition

theorem optionalTransform_map (o : Option Transform) :
    optionalTransform (o.map Transform.encode) = some o := by
  cases o with
  | none => rfl
  | some t =>
    have decoded := Transform.decode_encode true t
    cases t <;> exact congrArg (Option.map some) decoded

theorem texts_ofTexts (ts : List String) : texts (Datum.ofTexts ts) = some ts := by
  change (ts.map Datum.text).mapM Datum.text? = some ts
  induction ts with
  | nil => rfl
  | cons t ts ih => simp [Datum.text?, ih]

/-- The word of a rule. -/
def word : Rule → String
  | .field .. => "field"
  | .fanOut .. => "fan_out"
  | .multiSource .. => "multi_source"
  | .assemble .. => "assemble"
  | .nestedFields .. => "nested_fields"
  | .nested _ => "nested"

/-- The fields of a rule. -/
def ruleSlots : Rule → List (String × Option Datum)
  | .field source target transform condition =>
    [("source", some (.text source)), ("target", some (.text target)),
      ("transform", transform.map (·.encode)), ("when", condition.map .text)]
  | .fanOut source mapping condition =>
    [("source", some (.text source)), ("mapping", some mapping.encode),
      ("when", condition.map .text)]
  | .multiSource sources mapping condition =>
    [("sources", some (Datum.ofTexts sources)), ("mapping", some mapping.encode),
      ("when", condition.map .text)]
  | .assemble sources target assembler condition =>
    [("sources", some (Datum.ofTexts sources)), ("target", some (.text target)),
      ("assembler", some assembler.encode), ("when", condition.map .text)]
  | .nestedFields stem target assembler condition =>
    [("prefix", some (.text stem)), ("target", some (.text target)),
      ("assembler", some assembler.encode), ("when", condition.map .text)]
  | .nested mapping => [("mapping", some mapping.encode)]

/-- A rule is written with its word in front. -/
theorem encodeRule_eq (rule : Rule) :
    encodeRule rule =
      .table ((.name "type", .text (word rule)) :: Datum.rows (ruleSlots rule)) := by
  have tagged := Datum.tableOf_eq (("type", some (.text (word rule))) :: ruleSlots rule)
  cases rule <;> rw [encodeRule]
  case field => rw [Datum.textEntry?_eq, Transform.entry?_eq]; exact tagged
  case nested => exact tagged
  all_goals rw [Datum.textEntry?_eq]; exact tagged

theorem ruleFields_distinct (k : Nat) : (ruleFields k).Nodup ∧ "type" ∉ ruleFields k := by
  unfold ruleFields
  split <;> decide

/-- A rule is read by its word. -/
theorem decodeRule_tagged (lenient : Bool) {word : String} {k : Nat}
    {fields : List (String × Option Datum)} (position : ruleWords.idxOf? word = some k)
    (names : fields.map (·.1) = ruleFields k) :
    decodeRule lenient (.table ((.name "type", .text word) :: Datum.rows fields)) =
      readRule k (fields.map (·.2)) ((mappingPosition k).bind fun position =>
        decodeMappingNamed position ((.name "type", .text word) :: Datum.rows fields)) := by
  obtain ⟨distinct, other⟩ := ruleFields_distinct k
  rw [← names] at distinct other
  rw [decodeRule, Datum.single?_tag other, Datum.without_tag other]
  simp only [Datum.tagChoice?, position, Option.bind_eq_bind, Option.bind_some, ← names,
    Datum.slots?_rows distinct]
  cases mappingPosition k <;> rfl

/-- The rules are found behind the other fields of a definition. -/
theorem decodeRulesNamed_rows (lenient : Bool) (fields : List (String × Option Datum))
    (others : "rules" ∉ fields.map (·.1)) (d : Datum) :
    decodeRulesNamed lenient (Datum.rows (fields ++ [("rules", some d)])) =
      decodeRules lenient d := by
  induction fields with
  | nil => rfl
  | cons field fields ih =>
    obtain ⟨name, slot⟩ := field
    rw [List.map_cons, List.mem_cons, not_or] at others
    cases slot with
    | none => exact ih others.2
    | some content =>
      have skipped : (Key.name name).stands "rules" rulesPosition = false := by
        rw [Key.stands, beq_eq_false_iff_ne]
        exact Ne.symm others.1
      change decodeRulesNamed lenient ((.name name, content) :: Datum.rows (fields ++ _)) = _
      rw [decodeRulesNamed, skipped]
      exact ih others.2

mutual

/-- A definition that is written reads back. -/
theorem decode_encode (lenient : Bool) : ∀ d : Definition, decode lenient d.encode = some d
  | ⟨name, sourceType, targetType, autoMapping, policy, excluded, types, rules⟩ => by
    let d : Definition :=
      ⟨name, sourceType, targetType, autoMapping, policy, excluded, types, rules⟩
    have outer : read (Datum.form lenient) (fun _ => some id) d.encode =
        some { d with rules := [] } :=
      d.finds (Datum.form_lawful lenient) (fun _ _ => rfl) _ rfl
    have others : "rules" ∉ ["name", "source_type", "target_type", "auto_mapping",
      "failure_policy", "excluded_fields", "types"] := by decide
    have inner : decodeRulesNamed lenient (Datum.rows d.slots) = some rules :=
      (decodeRulesNamed_rows lenient d.slots.dropLast others _).trans
        (decodeRuleItems_encodeRules lenient rules)
    rw [d.encode_eq] at outer
    rw [d.encode_eq, decode, outer, inner]
    rfl

theorem decodeRuleItems_encodeRules (lenient : Bool) :
    ∀ rules : List (RuleOf Definition), decodeRuleItems lenient (encodeRules rules) = some rules
  | [] => rfl
  | rule :: rest => by
    rw [encodeRules, decodeRuleItems, decodeRule_encodeRule lenient rule,
      decodeRuleItems_encodeRules lenient rest]
    rfl

theorem decodeRule_encodeRule (lenient : Bool) :
    ∀ rule : RuleOf Definition, decodeRule lenient (encodeRule rule) = some rule
  | .field source target transform condition => by
    rw [encodeRule_eq, decodeRule_tagged lenient (k := 0) rfl rfl]
    change (do
      let transform ← optionalTransform (transform.map Transform.encode)
      let condition ← Transform.optionalText (condition.map .text)
      return RuleOf.field source target transform condition) = _
    rw [optionalTransform_map, Transform.optionalText_map]
    rfl
  | .fanOut source mapping condition => by
    rw [encodeRule_eq, decodeRule_tagged lenient (k := 1) rfl rfl]
    change readRule 1 [some (.text source), some mapping.encode, condition.map .text]
      (decode true mapping.encode) = _
    rw [decode_encode true mapping]
    change (do
      let condition ← Transform.optionalText (condition.map .text)
      return RuleOf.fanOut source mapping condition) = _
    rw [Transform.optionalText_map]
    rfl
  | .multiSource sources mapping condition => by
    rw [encodeRule_eq, decodeRule_tagged lenient (k := 2) rfl rfl]
    change readRule 2 [some (Datum.ofTexts sources), some mapping.encode, condition.map .text]
      (decode true mapping.encode) = _
    rw [decode_encode true mapping]
    change (do
      let sources ← texts (Datum.ofTexts sources)
      let condition ← Transform.optionalText (condition.map .text)
      return RuleOf.multiSource sources mapping condition) = _
    rw [texts_ofTexts, Transform.optionalText_map]
    rfl
  | .assemble sources target assembler condition => by
    rw [encodeRule_eq, decodeRule_tagged lenient (k := 3) rfl rfl]
    change (do
      let sources ← texts (Datum.ofTexts sources)
      let assembler ← Transform.decode true assembler.encode
      let condition ← Transform.optionalText (condition.map .text)
      return RuleOf.assemble sources target assembler condition) = _
    rw [texts_ofTexts, assembler.decode_encode true, Transform.optionalText_map]
    rfl
  | .nestedFields stem target assembler condition => by
    rw [encodeRule_eq, decodeRule_tagged lenient (k := 4) rfl rfl]
    change (do
      let assembler ← Transform.decode true assembler.encode
      let condition ← Transform.optionalText (condition.map .text)
      return RuleOf.nestedFields stem target assembler condition) = _
    rw [assembler.decode_encode true, Transform.optionalText_map]
    rfl
  | .nested mapping => by
    rw [encodeRule_eq, decodeRule_tagged lenient (k := 5) rfl rfl]
    change readRule 5 [some mapping.encode] (decode true mapping.encode) = _
    rw [decode_encode true mapping]
    rfl

end

end Definition

end Remap
