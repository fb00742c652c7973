import Remap.Expression.Parse

/-!
# Expressions

An expression is its text, without blanks around it, and the tree that the text stands for. Two
expressions count as equal when their texts are.
-/

namespace Remap

/-- An expression with the text it was read from. -/
structure Expression where
  text : String
  tree : Expression.Expr

namespace Expression

instance : Inhabited Expression := ⟨⟨"null", default⟩⟩

/-- The written form of a property of the root: its name, in quotes and brackets if it cannot
stand alone. -/
def propertyText (name : String) : String :=
  if isIdentifier name then name
  else "['" ++ String.ofList (Text.doubleQuotes '\'' name.toList) ++ "']"

/-- The expression that reads a property of the root. -/
def ofProperty (name : String) : Expression := ⟨propertyText name, .property name⟩

/-- The expression that a text stands for. -/
def parse [Regex.Engine] (text : String) : Except ParseError Expression := do
  let trimmed := Text.trim text
  let cs := trimmed.toList
  if cs.isEmpty then throw ⟨.empty, 0⟩
  let tokens ← lexemes 0 cs
  let tree ← parseTokens tokens cs.length
  return ⟨trimmed, tree⟩

/-- The property that the expression reads, if it does nothing else. -/
def rootProperty? (e : Expression) : Option String :=
  match e.tree with
  | .property name => some name
  | _ => none

/-- Equal as far as mappings are concerned: the texts agree. -/
def same (a b : Expression) : Bool := a.text == b.text

end Expression

end Remap
