import Remap.Proofs.Expression.Productions
import Remap.Proofs.Mapping.Adding

/-!
# What equal entries have in common

Entries are compared by what they were read from: expressions and paths by their texts without
blanks around them, transforms by their structure. Two texts that are equal but for those blanks are
read in the same way.
-/

namespace Remap

/-! ## Transforms -/

theorem Converter.same?_transform (f g : Option Transform) :
    same? (f.map .transform) (g.map .transform) = true ↔ f = g := by
  cases f <;> cases g <;> simp [same?, same, Transform.same_iff]

/-! ## Texts -/

variable [Regex.Engine]

namespace Expression

/-- Blanks around a text do not matter. -/
theorem parse_eq_of_trim_eq {a b : String} (equal : Text.trim a = Text.trim b) :
    parse a = parse b := by
  simp only [parse, equal]

/-- An expression keeps its text without blanks around it. -/
theorem text_of_parse {text : String} {e : Expression} (parsed : parse text = .ok e) :
    e.text = Text.trim text := by
  obtain ⟨_, _, -, -, -, rfl⟩ := parse_eq_ok.mp parsed
  rfl

theorem same_iff_of_parse {text text' : String} {e e' : Expression} (parsed : parse text = .ok e)
    (parsed' : parse text' = .ok e') : e.same e' = true ↔ Text.trim text = Text.trim text' := by
  rw [same, beq_iff_eq, text_of_parse parsed, text_of_parse parsed']

/-- The texts of several expressions are those that they were read from. -/
theorem map_text_of_parse {texts : List String} {es : List Expression}
    (parsed : List.Forall₂ (fun text e => parse text = .ok e) texts es) :
    es.map (·.text) = texts.map Text.trim := by
  induction parsed with
  | nil => rfl
  | cons first _ ih => rw [List.map_cons, List.map_cons, ih, text_of_parse first]

end Expression

namespace Path

theorem parse_eq_of_trim_eq {a b : String} (equal : Text.trim a = Text.trim b) :
    parse a = parse b := by
  rw [parse, parse, Expression.parse_eq_of_trim_eq equal]

/-- A path keeps its text without blanks around it. -/
theorem text_of_parse {text : String} {path : Path} (parsed : parse text = .ok path) :
    path.text = Text.trim text := by
  obtain ⟨e, parsedAs, made⟩ := bind_eq_ok.mp parsed
  split at made
  · next path' found =>
    obtain ⟨segments, -, rfl⟩ := Option.map_eq_some_iff.mp found
    cases made
    exact Expression.text_of_parse parsedAs
  · cases made

/-- Paths are equal if their texts are, since the text determines the steps. -/
theorem eq_iff_of_parse {text text' : String} {path path' : Path} (parsed : parse text = .ok path)
    (parsed' : parse text' = .ok path') : path = path' ↔ Text.trim text = Text.trim text' := by
  constructor
  · rintro rfl
    rw [← text_of_parse parsed, text_of_parse parsed']
  · intro equal
    rw [parse_eq_of_trim_eq equal, parsed'] at parsed
    cases parsed
    rfl

end Path

/-- Guards are the same if there is none, or their texts are equal but for blanks around them. -/
theorem Entry.sameCondition_iff_of_parse {condition condition' : Option String}
    {guard guard' : Option Expression}
    (parsed : Option.Rel (fun text e => Expression.parse text = .ok e) condition guard)
    (parsed' : Option.Rel (fun text e => Expression.parse text = .ok e) condition' guard') :
    sameCondition guard guard' = true ↔
      condition.map Text.trim = condition'.map Text.trim := by
  cases parsed with
  | none => cases parsed' <;> simp [sameCondition]
  | some first =>
    cases parsed' with
    | none => simp [sameCondition]
    | some second => simp [sameCondition, Expression.same_iff_of_parse first second]

end Remap
