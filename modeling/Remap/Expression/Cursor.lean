import Remap.Expression.Scan
import Remap.Expression.Tree

/-!
# Where a reader stands

The tokens that are still to be read, and how many levels are open. Levels are opened one by one
and never more than `maxNesting` of them; past the last token a reader sees the end and stays
there.
-/

namespace Remap.Expression

/-- The deepest nesting that is read: of parentheses, brackets and signs, and of the links of a
chain of operators. -/
def maxNesting : Nat := 256

/-- The tokens still to be read, the offset of the end, and the number of open levels. -/
structure Cursor where
  rest : List Lexeme
  finish : Nat
  depth : Nat

namespace Cursor

/-- How many tokens are left. -/
def size (c : Cursor) : Nat := c.rest.length

/-- The next token. -/
def peek (c : Cursor) : Token :=
  match c.rest with
  | [] => .finish
  | l :: _ => l.token

/-- The offset of the next token. -/
def offset (c : Cursor) : Nat :=
  match c.rest with
  | [] => c.finish
  | l :: _ => l.offset

/-- Past the next token. -/
def advance (c : Cursor) : Cursor := { c with rest := c.rest.tail }

/-- One more level open. -/
def deeper (c : Cursor) : Cursor := { c with depth := c.depth + 1 }

/-- One level less open. -/
def shallower (c : Cursor) : Cursor := { c with depth := c.depth - 1 }

/-- With a given number of levels open. -/
def atDepth (c : Cursor) (depth : Nat) : Cursor := { c with depth := depth }

/-- Opens a level, which fails at the offset when all are open. -/
def deepen (c : Cursor) (offset : Nat) : Except ParseError Unit :=
  if maxNesting ≤ c.depth then .error ⟨.nestedTooDeeply, offset⟩ else .ok ()

@[simp] theorem size_deeper (c : Cursor) : c.deeper.size = c.size := rfl

@[simp] theorem size_shallower (c : Cursor) : c.shallower.size = c.size := rfl

@[simp] theorem size_atDepth (c : Cursor) (d : Nat) : (c.atDepth d).size = c.size := rfl

theorem size_advance_le (c : Cursor) : c.advance.size ≤ c.size := by
  simp only [advance, size, List.length_tail]; omega

/-- Past a token that is not the end, fewer tokens are left. -/
theorem size_advance_lt {c : Cursor} (h : c.rest ≠ []) : c.advance.size < c.size := by
  have : 0 < c.rest.length := List.length_pos_iff.2 h
  simp only [advance, size, List.length_tail]; omega

end Cursor

/-- An expression read from a cursor, and the cursor behind it. -/
structure Parsed (c : Cursor) where
  expr : Expr
  after : Cursor
  /-- Something was read. -/
  shorter : after.size < c.size

/-- An expression that was extended from a cursor on, if anything extends it. -/
structure Extended (c : Cursor) where
  expr : Expr
  after : Cursor
  /-- Nothing is given back. -/
  noLonger : after.size ≤ c.size

/-- An expression that nothing extends. -/
def Extended.alone (expr : Expr) (c : Cursor) : Extended c := ⟨expr, c, Nat.le_refl _⟩

end Remap.Expression
