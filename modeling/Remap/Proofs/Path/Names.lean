import Remap.Proofs.Expression.Property
import Remap.Proofs.Mapping.Sameness
import Remap.Regex.Reader

/-!
# Texts as names

The text of an expression names what the expression means. The text of a property is one of its
spellings, whatever the name of the property is, so it reads as the property. A text that was read
is kept without the blanks around it, and these do not matter.

Main statement: the text of a property reads as the property, as an expression and as a path, and
expressions with one text are one expression.
-/

namespace Remap

namespace Expression

/-! ## The text of a property -/

/-- A property is written as its bare name or, with quotes doubled, in single quotes. -/
theorem spelling_propertyText (name : String) : Spelling name 0 (propertyText name).toList := by
  unfold propertyText
  split
  · next standsAlone => exact .bare standsAlone
  · have quoted := @Spelling.quoted name '\'' [] [] (.inl rfl) rfl rfl
    simpa [String.toList_append] using quoted

/-- No blanks stand around the text of a property, even if its name starts or ends with some. -/
theorem trim_propertyText (name : String) : Text.trim (propertyText name) = propertyText name := by
  obtain ⟨present, first, last⟩ := (spelling_propertyText name).solid
  rw [Text.trim, Text.trimChars_eq_self present first last, String.ofList_toList]

variable [Regex.Engine]

/-- The text of a property reads as the property. -/
theorem parse_propertyText (name : String) : parse (propertyText name) = .ok (ofProperty name) := by
  have writes : Writes name (propertyText name) := by
    have written :=
      @Writes.intro name 0 [] _ [] (spelling_propertyText name) (Nat.zero_le _) rfl rfl
    simpa using written
  obtain ⟨⟨text, tree⟩, parsed, rfl⟩ := writes.parse
  have kept : text = Text.trim (propertyText name) := text_of_parse parsed
  rw [parsed, kept, trim_propertyText]
  rfl

/-! ## Expressions from texts and from names -/

/-- An expression that was read from a text, or made for a property. -/
inductive Made : Expression → Prop
  | read {text : String} {e : Expression} (parsed : parse text = .ok e) : Made e
  | property (name : String) : Made (ofProperty name)

namespace Made

variable {a b e : Expression}

/-- The text of an expression reads as the expression. -/
theorem parse_text (made : e.Made) : parse e.text = .ok e := by
  cases made with
  | @read text _ parsed =>
    have trimmed : Text.trim e.text = Text.trim text := by
      rw [text_of_parse parsed, Text.trim, Text.trim, String.toList_ofList,
        Text.trimChars_trimChars]
    rw [parse_eq_of_trim_eq trimmed, parsed]
  | property name => exact parse_propertyText name

/-- Expressions that count as equal are equal, since both are what their text reads as. -/
theorem eq_of_same (madeA : a.Made) (madeB : b.Made) (same : a.same b = true) : a = b := by
  have texts : a.text = b.text := beq_iff_eq.mp same
  have parsed := madeA.parse_text
  rw [texts, madeB.parse_text] at parsed
  exact (Except.ok.inj parsed).symm

end Made

end Expression

/-- The text of a property reads as the path to it. -/
theorem Path.parse_propertyText [Regex.Engine] (name : String) :
    parse (Expression.propertyText name) = .ok (ofProperty name) := by
  rw [parse, Expression.parse_propertyText]
  rfl

namespace Expression

/-- The text of an expression is a faithful name. The text of a property reads as the property,
whatever characters its name has, and as the path to it; and two expressions that count as equal,
each read from a text or made for a property, have the same tree. -/
theorem text_names_expression [Regex.Engine] :
    (∀ name : String,
      parse (ofProperty name).text = .ok (ofProperty name) ∧
        (ofProperty name).rootProperty? = some name ∧
        Path.parse (ofProperty name).text = .ok (Path.ofProperty name)) ∧
      ∀ a b : Expression, a.Made → b.Made → a.same b = true → a.tree = b.tree := by
  refine ⟨fun name => ⟨parse_propertyText name, rfl, Path.parse_propertyText name⟩, ?_⟩
  intro a b madeA madeB same
  rw [madeA.eq_of_same madeB same]

end Expression

namespace Depot

/-- The property `it's`, written with blanks around it and a doubled quote, is the one made for the
name. -/
theorem doubled_quote_names_property :
    ∃ e, Expression.parse " ['it''s'] " = .ok e ∧ e.same (.ofProperty "it's") = true ∧
      e.tree = (Expression.ofProperty "it's").tree := by
  have trimmed : Text.trim " ['it''s'] " = Text.trim (Expression.propertyText "it's") := by
    decide +kernel
  have parsed := Expression.parse_eq_of_trim_eq trimmed
  rw [Expression.parse_propertyText] at parsed
  exact ⟨_, parsed, beq_self_eq_true _,
    Expression.text_names_expression.2 _ _ (.read parsed) (.property "it's") (beq_self_eq_true _)⟩

end Depot

end Remap
