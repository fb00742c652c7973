import Remap.Proofs.Mapping.Turns
import Remap.Proofs.Path.Names
import Remap.Regex.Reader

/-!
# Assembled values

An assembly of expressions gathers their values under the texts of the expressions. An expression
that is listed again reads the same value again and finds its place taken, so every text has one
value, in the order in which the texts are first listed.

Main statement: what an entry writes that joins the values of an assembly.
-/

namespace Remap

namespace Assembly

variable {e : Expression} {sources rest : List Expression} {names : List String}

/-! ## First of each text -/

/-- The expressions without those whose text stands earlier in the list. -/
def firstListed (sources : List Expression) : List Expression :=
  sources.eraseDupsBy Expression.same

theorem firstListed_cons (e : Expression) (rest : List Expression) :
    firstListed (e :: rest) = e :: firstListed (rest.filter fun other => !other.same e) := by
  rw [firstListed, List.eraseDupsBy_cons]
  congr 2
  refine List.filter_congr fun other _ => ?_
  cases other.same e <;> rfl

/-- Nothing is left out if no text is listed twice. -/
theorem firstListed_of_nodup (once : (sources.map (·.text)).Nodup) :
    firstListed sources = sources := by
  induction sources with
  | nil => rfl
  | cons e rest ih =>
    obtain ⟨new, onceRest⟩ := List.nodup_cons.mp once
    have others : (rest.filter fun other => !other.same e) = rest := by
      refine List.filter_eq_self.mpr fun other member => ?_
      rw [Bool.not_eq_true', Expression.same, beq_eq_false_iff_ne]
      intro equal
      exact new (List.mem_map.mpr ⟨other, member, equal⟩)
    rw [firstListed_cons, others, ih onceRest]

/-- The expressions with other texts than some. -/
def besides (names : List String) (sources : List Expression) : List Expression :=
  sources.filter fun e => e.text ∉ names

theorem besides_nil (sources : List Expression) : besides [] sources = sources :=
  List.filter_eq_self.mpr fun _ _ => by simp

theorem besides_cons_of_mem (old : e.text ∈ names) :
    besides names (e :: rest) = besides names rest :=
  List.filter_cons_of_neg (by simpa using old)

/-- An expression with a new text is the first of its text, and its text is no longer new. -/
theorem firstListed_besides_cons (new : e.text ∉ names) :
    firstListed (besides names (e :: rest)) =
      e :: firstListed (besides (names ++ [e.text]) rest) := by
  have head : besides names (e :: rest) = e :: besides names rest :=
    List.filter_cons_of_pos (by simpa using new)
  have tail : (besides names rest).filter (fun other => !other.same e) =
      besides (names ++ [e.text]) rest := by
    rw [besides, List.filter_filter]
    refine List.filter_congr fun other _ => ?_
    rw [Bool.eq_iff_iff]
    simp [Expression.same, and_comm]
  rw [head, firstListed_cons, tail]

/-- The texts of the values that are not null, with a separator between them. -/
def joined (separator : Option String) (values : List Value) : String :=
  (separator.getD "").intercalate ((values.filter fun v => !v.isNull).map Value.text)

end Assembly

namespace Pass

variable {pass : Pass} {sources : List Expression} {valueOf : Expression → Value}

/-! ## What is gathered -/

/-- What stands under the texts of the expressions are their values. -/
def HoldsValues (valueOf : Expression → Value) (fields : List (String × Value))
    (sources : List Expression) : Prop :=
  ∀ e ∈ sources, ∀ v, Fields.get? fields e.text = some v → v = valueOf e

variable [Regex.Engine]

/-- Storing the value of an expression does not disturb the values of others, since an expression
with the text of another one is the other one. -/
theorem HoldsValues.put {fields : List (String × Value)} {e : Expression} {rest : List Expression}
    (holds : HoldsValues valueOf fields (e :: rest)) (made : ∀ other ∈ e :: rest, other.Made) :
    HoldsValues valueOf (Fields.put fields e.text (valueOf e)) rest := by
  intro other member v found
  by_cases same : other.text = e.text
  · have equal : other = e := (made other (List.mem_cons_of_mem _ member)).eq_of_same
      (made e List.mem_cons_self) (beq_iff_eq.mpr same)
    rw [same, Fields.get?_put_self] at found
    rw [equal, ← Option.some.inj found]
  · rw [Fields.get?_put_of_ne fields _ same] at found
    exact holds other (List.mem_cons_of_mem _ member) v found

/-- What is gathered comes after what was gathered before: each new text with its value. -/
theorem gatherFields_eq {before : List (String × Value)} (made : ∀ e ∈ sources, e.Made)
    (read : ∀ e ∈ sources, pass.read e = .ok (valueOf e))
    (holds : HoldsValues valueOf before sources) :
    pass.gatherFields ⟨.unnamed, before⟩ sources = .ok ⟨.unnamed, before ++
      (Assembly.firstListed (Assembly.besides (Fields.names before) sources)).map
        fun e => (e.text, valueOf e)⟩ := by
  induction sources generalizing before with
  | nil =>
    show Except.ok _ = Except.ok (RecordOf.mk Shape.unnamed (before ++ []))
    rw [List.append_nil]
  | cons e rest ih =>
    have step : pass.gatherFields ⟨.unnamed, before⟩ (e :: rest) =
        pass.gatherFields ⟨.unnamed, Fields.put before e.text (valueOf e)⟩ rest := by
      rw [gatherFields, read e List.mem_cons_self]
      rfl
    have madeRest : ∀ other ∈ rest, other.Made :=
      fun other member => made other (List.mem_cons_of_mem _ member)
    have readRest : ∀ other ∈ rest, pass.read other = .ok (valueOf other) :=
      fun other member => read other (List.mem_cons_of_mem _ member)
    rw [step, ih madeRest readRest (holds.put made)]
    cases found : Fields.get? before e.text with
    | some v =>
      have old : e.text ∈ Fields.names before :=
        List.mem_map.mpr ⟨(e.text, v), Fields.mem_of_get? found, rfl⟩
      rw [← holds e List.mem_cons_self v found, Fields.put_of_get?_eq_some found,
        Assembly.besides_cons_of_mem old]
    | none =>
      have new : e.text ∉ Fields.names before := Fields.get?_eq_none_iff.mp found
      rw [Fields.put_of_not_mem new, Assembly.firstListed_besides_cons new, Fields.names_append,
        List.append_assoc]
      rfl

/-- An assembly of expressions gathers the first of each text, with its value. -/
theorem gather_fields (made : ∀ e ∈ sources, e.Made)
    (read : ∀ e ∈ sources, pass.read e = .ok (valueOf e)) :
    pass.gather (.fields sources) = .ok ⟨.unnamed,
      (Assembly.firstListed sources).map fun e => (e.text, valueOf e)⟩ := by
  have empty : HoldsValues valueOf [] sources := by
    intro e _ v found
    cases found
  have gathered := gatherFields_eq made read empty
  rw [Fields.names_nil, Assembly.besides_nil] at gathered
  exact gathered

/-- An entry that joins the values of an assembly offers the text of them to its path. -/
theorem offered?_concatenation {path : Path} {separator : Option String}
    {condition : Option Expression} {target : Value} (made : ∀ e ∈ sources, e.Made)
    (read : ∀ e ∈ sources, pass.read e = .ok (valueOf e))
    (applies : pass.applies target condition = .ok true) :
    pass.offered? target
        ⟨.assembled (.fields sources) path (.transform (.concatenate separator)), condition⟩ =
      some (path, .string
        (Assembly.joined separator ((Assembly.firstListed sources).map valueOf))) := by
  have values : ((Assembly.firstListed sources).map fun e => (e.text, valueOf e)).map (·.2) =
      (Assembly.firstListed sources).map valueOf := by
    rw [List.map_map]
    rfl
  have text : Transform.apply (.concatenate separator) (.record ⟨.unnamed,
      (Assembly.firstListed sources).map fun e => (e.text, valueOf e)⟩) =
        .ok (.string (Assembly.joined separator ((Assembly.firstListed sources).map valueOf))) := by
    rw [Transform.apply, ← values]
    rfl
  simp only [offered?, applies, gather_fields made read, converted?, Converter.apply, text]
  rfl

/-- An entry that joins the values of listed expressions writes the texts of those that are not
null, one for each text of an expression, in the order of first listing. Nothing is left out if no
expression is listed twice. -/
theorem runEntry_concatenation (pass : Pass) (auto : Bool) (sources : List Expression) (path : Path)
    (separator : Option String) (condition : Option Expression) (target : Value)
    (valueOf : Expression → Value) (parsed : ∀ e ∈ sources, ∃ text, Expression.parse text = .ok e)
    (read : ∀ e ∈ sources, pass.read e = .ok (valueOf e))
    (applies : pass.applies target condition = .ok true) :
    let e : Entry :=
      ⟨.assembled (.fields sources) path (.transform (.concatenate separator)), condition⟩
    pass.runEntry auto e target = report auto e <$> pass.write path
        (.string (Assembly.joined separator ((Assembly.firstListed sources).map valueOf))) target ∧
      ((sources.map (·.text)).Nodup → Assembly.firstListed sources = sources) := by
  have made : ∀ e ∈ sources, e.Made := by
    intro e member
    obtain ⟨text, parsed⟩ := parsed e member
    exact .read parsed
  exact ⟨runEntry_of_offered auto (offered?_concatenation made read applies),
    Assembly.firstListed_of_nodup⟩

end Pass

/-! ## A sender listed twice -/

namespace Shipment

/-- The source has a sender, a port, and a receiver that is not known. -/
def addressed : Pass :=
  ({} : FieldMapper).passOver (.record ⟨.unnamed,
    [("sender", .string "Ada"), ("receiver", .null), ("port", .string "Perth")]⟩)

/-- The entry that writes the values of some fields to the label, with strokes between them. -/
def label (sources : List Expression) : Entry :=
  ⟨.assembled (.fields sources) (.ofProperty "label") (.transform (.concatenate (some "-"))), none⟩

/-- What the source has for an expression. -/
def contentOf (e : Expression) : Value := (addressed.read e).toOption.getD .null

theorem parsed_of_names (names : List String) :
    ∀ e ∈ names.map Expression.ofProperty, ∃ text, Expression.parse text = .ok e := by
  intro e member
  obtain ⟨name, -, rfl⟩ := List.mem_map.mp member
  exact ⟨_, Expression.parse_propertyText name⟩

/-- The sender is on the label once, where it is listed first. -/
theorem label_has_sender_once :
    let sources := ["sender", "receiver", "port", "sender"].map Expression.ofProperty
    (∀ e ∈ sources, ∃ text, Expression.parse text = .ok e) ∧
      (∀ e ∈ sources, addressed.read e = .ok (contentOf e)) ∧
      addressed.applies .emptyRecord none = .ok true ∧
      addressed.runEntry false (label sources) .emptyRecord =
        Pass.report false (label sources) <$>
          addressed.write (.ofProperty "label") (.string "Ada-Perth") .emptyRecord := by
  intro sources
  have parsed : ∀ e ∈ sources, ∃ text, Expression.parse text = .ok e := parsed_of_names _
  have read : ∀ e ∈ sources, addressed.read e = .ok (contentOf e) := by
    intro e member
    obtain ⟨name, among, rfl⟩ := List.mem_map.mp member
    rcases among with _ | ⟨_, _ | ⟨_, _ | ⟨_, _ | ⟨_, ⟨⟩⟩⟩⟩⟩ <;> rfl
  have text : Assembly.joined (some "-") ((Assembly.firstListed sources).map contentOf) =
      "Ada-Perth" := by decide
  refine ⟨parsed, read, rfl, ?_⟩
  rw [← text]
  exact (Pass.runEntry_concatenation addressed false sources (.ofProperty "label") (some "-") none
    .emptyRecord contentOf parsed read rfl).1

/-- A sender that is listed twice is read twice and written once. -/
theorem label_lacks_second_sender :
    let sources := ["sender", "sender"].map Expression.ofProperty
    (∀ e ∈ sources, (∃ text, Expression.parse text = .ok e) ∧
        addressed.read e = .ok (.string "Ada")) ∧
      ((addressed.runEntry false (label sources) .emptyRecord).run []).1.2 =
        .record ⟨.unnamed, [("label", .string "Ada")]⟩ ∧
      Assembly.joined (some "-") (sources.map fun _ => .string "Ada") = "Ada-Ada" ∧
      addressed.runEntry false (label sources) .emptyRecord ≠
        Pass.report false (label sources) <$> addressed.write (.ofProperty "label")
          (.string (Assembly.joined (some "-") (sources.map fun _ => .string "Ada")))
          .emptyRecord := by
  intro sources
  have read : ∀ e ∈ sources, addressed.read e = .ok (.string "Ada") := by
    intro e member
    obtain ⟨name, among, rfl⟩ := List.mem_map.mp member
    rcases among with _ | ⟨_, _ | ⟨_, ⟨⟩⟩⟩ <;> rfl
  refine ⟨fun e member => ⟨parsed_of_names _ e member, read e member⟩, rfl, by decide, ?_⟩
  intro equal
  have labels : some (Value.string "Ada") = some (Value.string "Ada-Ada") :=
    congrArg (fun ran => (ran.run []).1.2.field? "label") equal
  exact absurd (Value.string.inj (Option.some.inj labels)) (by decide)

end Shipment

end Remap
