import Remap.Expression.Cursor

/-!
# From tokens to expressions

Reading an expression by its grammar. From loose to tight: `||`, `&&`, `!`, comparisons and
`matches`, `+` and `-`, negation, and the steps `.name` and `[index]`. Chains of one operator
group to the left, a comparison does not continue, and the minus before a numeric literal belongs
to the literal.

Every parenthesis, bracket, sign and link of a chain opens a level, so that the depth of what is
read is bounded. Each step of the reader leaves fewer tokens, which is why it ends.
-/

namespace Remap.Expression

/-- A chain of `||` or `&&`, of signs or of steps is read from `c` on. -/
abbrev Step (c : Cursor) := Except ParseError (Parsed c)

/-- The end of a chain that started at a cursor with `depth` open levels. -/
def Parsed.close {c d : Cursor} (first : Parsed c) (chain : Extended d) (h : d = first.after) :
    Parsed c :=
  ⟨chain.expr, chain.after.atDepth c.depth, by
    have := first.shorter
    have := chain.noLonger
    subst h
    simp only [Cursor.size_atDepth]
    omega⟩

/-- The operator of a comparison sign. -/
def comparison? : Token → Option Operator
  | .equal => some .equal
  | .notEqual => some .notEqual
  | .less => some .less
  | .lessEqual => some .lessEqual
  | .greater => some .greater
  | .greaterEqual => some .greaterEqual
  | _ => none

/-- The operator of a sum. -/
def additive? : Token → Option Operator
  | .plus => some .add
  | .minus => some .subtract
  | _ => none

/-- The literal or name that a single token stands for. -/
def atom? : Token → Option Expr
  | .integer n => some (.literal (.integer n))
  | .decimal x => some (.literal (.decimal x))
  | .string s => some (.literal (.string s))
  | .true => some (.literal (.boolean Bool.true))
  | .false => some (.literal (.boolean Bool.false))
  | .null => some (.literal .null)
  | .identifier name => some (.property name)
  | .variable name => some (.variable name)
  | _ => none

/-- The text of a regular expression that has to match all of a text. -/
def wholeMatch (pattern : String) : String := "^(?:" ++ pattern ++ ")$"

/-- A match; a literal pattern is read at once, a bad one is reported at the offset. -/
def matchExpr [Regex.Engine] (subject pattern : Expr) (offset : Nat) : Except ParseError Expr :=
  match pattern with
  | .literal (.string p) =>
    match Regex.Engine.read (wholeMatch p) with
    | .ok regex => .ok (.matchesRegex subject regex)
    | .error cause => .error ⟨.invalidPattern p cause, offset⟩
  | _ => .ok (.matchesDynamic subject pattern)

/-- The negation of an operand; that of a numeric literal is a literal. -/
def negation (operand : Expr) (offset : Nat) : Except ParseError Expr :=
  match operand with
  | .literal (.integer n) =>
    match n.neg? with
    | some m => .ok (.literal (.integer m))
    | none => .error ⟨.literalOverflow, offset⟩
  | .literal (.decimal x) => .ok (.literal (.decimal (-x)))
  | _ => .ok (.negate operand)

/-- Past a token that has to come next. -/
def expect (wanted : Token) (c : Cursor) (isWanted : Token → Bool) : Except ParseError Cursor :=
  if isWanted c.peek then .ok c.advance else .error ⟨.expected wanted c.peek, c.offset⟩

theorem size_of_expect {wanted : Token} {c d : Cursor} {isWanted : Token → Bool}
    (h : expect wanted c isWanted = .ok d) : d.size ≤ c.size := by
  unfold expect at h
  split at h
  · cases h; exact c.size_advance_le
  · cases h

/-- Past a token that has to come next, with what that means for the number of tokens. -/
def expectAfter (wanted : Token) (c : Cursor) (isWanted : Token → Bool) :
    Except ParseError { d : Cursor // d.size ≤ c.size } :=
  match h : expect wanted c isWanted with
  | .ok d => .ok ⟨d, size_of_expect h⟩
  | .error e => .error e

/-- Is it a closing parenthesis? -/
def isRightParen : Token → Bool
  | .rightParen => true
  | _ => false

/-- Is it a closing bracket? -/
def isRightBracket : Token → Bool
  | .rightBracket => true
  | _ => false

/-- Is it the end? -/
def isFinish : Token → Bool
  | .finish => true
  | _ => false

variable [Regex.Engine]

mutual
/-- Operands joined by `||`. -/
def parseOr (c : Cursor) : Step c := do
  let first ← parseAnd c
  have := first.shorter
  let chain ← extendOr first.expr first.after
  return first.close chain rfl
termination_by 16 * c.size + 10

/-- The links of a chain of `||`. -/
def extendOr (left : Expr) (c : Cursor) : Except ParseError (Extended c) :=
  match h : c.rest with
  | ⟨.or, offset⟩ :: _ => do
    have hlt : c.deeper.advance.size < c.size :=
      c.deeper.size_advance_lt (show c.rest ≠ [] from h ▸ List.cons_ne_nil _ _)
    c.deepen offset
    let right ← parseAnd c.deeper.advance
    have := right.shorter
    let chain ← extendOr (.or left right.expr) right.after
    return ⟨chain.expr, chain.after, by have := chain.noLonger; omega⟩
  | _ => .ok (.alone left c)
termination_by 16 * c.size

/-- Operands joined by `&&`. -/
def parseAnd (c : Cursor) : Step c := do
  let first ← parseNot c
  have := first.shorter
  let chain ← extendAnd first.expr first.after
  return first.close chain rfl
termination_by 16 * c.size + 9

/-- The links of a chain of `&&`. -/
def extendAnd (left : Expr) (c : Cursor) : Except ParseError (Extended c) :=
  match h : c.rest with
  | ⟨.and, offset⟩ :: _ => do
    have hlt : c.deeper.advance.size < c.size :=
      c.deeper.size_advance_lt (show c.rest ≠ [] from h ▸ List.cons_ne_nil _ _)
    c.deepen offset
    let right ← parseNot c.deeper.advance
    have := right.shorter
    let chain ← extendAnd (.and left right.expr) right.after
    return ⟨chain.expr, chain.after, by have := chain.noLonger; omega⟩
  | _ => .ok (.alone left c)
termination_by 16 * c.size

/-- A comparison, or the denial of one. -/
def parseNot (c : Cursor) : Step c :=
  match h : c.rest with
  | ⟨.not, offset⟩ :: _ => do
    have hlt : c.advance.deeper.size < c.size :=
      c.size_advance_lt (show c.rest ≠ [] from h ▸ List.cons_ne_nil _ _)
    c.deepen offset
    let operand ← parseNot c.advance.deeper
    return ⟨.not operand.expr, operand.after.shallower, by
      have := operand.shorter; simp only [Cursor.size_shallower]; omega⟩
  | _ => parseComparison c
termination_by 16 * c.size + 8

/-- A sum, alone or compared with another one. -/
def parseComparison (c : Cursor) : Step c := do
  let left ← parseSum c
  have hleft := left.shorter
  match h : left.after.rest with
  | ⟨token, _⟩ :: _ =>
    have hlt : left.after.advance.size < left.after.size :=
      left.after.size_advance_lt (h ▸ List.cons_ne_nil _ _)
    match token with
    | .matches =>
      let right ← parseSum left.after.advance
      let expr ← matchExpr left.expr right.expr left.after.advance.offset
      return ⟨expr, right.after, by have := right.shorter; omega⟩
    | token =>
      match comparison? token with
      | some operator =>
        let right ← parseSum left.after.advance
        return ⟨.binary operator left.expr right.expr, right.after, by
          have := right.shorter; omega⟩
      | none => return left
  | [] => return left
termination_by 16 * c.size + 7

/-- Operands joined by `+` and `-`. -/
def parseSum (c : Cursor) : Step c := do
  let first ← parseUnary c
  have := first.shorter
  let chain ← extendSum first.expr first.after
  return first.close chain rfl
termination_by 16 * c.size + 6

/-- The links of a sum. -/
def extendSum (left : Expr) (c : Cursor) : Except ParseError (Extended c) :=
  match h : c.rest with
  | ⟨token, offset⟩ :: _ =>
    match additive? token with
    | some operator => do
      have hlt : c.deeper.advance.size < c.size :=
        c.deeper.size_advance_lt (show c.rest ≠ [] from h ▸ List.cons_ne_nil _ _)
      c.deepen offset
      let right ← parseUnary c.deeper.advance
      have := right.shorter
      let chain ← extendSum (.binary operator left right.expr) right.after
      return ⟨chain.expr, chain.after, by have := chain.noLonger; omega⟩
    | none => .ok (.alone left c)
  | [] => .ok (.alone left c)
termination_by 16 * c.size

/-- An operand with its steps, or the negation of one. -/
def parseUnary (c : Cursor) : Step c :=
  match h : c.rest with
  | ⟨.minus, _⟩ :: _ => do
    have hlt : c.advance.deeper.size < c.size :=
      c.size_advance_lt (show c.rest ≠ [] from h ▸ List.cons_ne_nil _ _)
    c.advance.deepen c.advance.offset
    let operand ← parseUnary c.advance.deeper
    let expr ← negation operand.expr c.advance.offset
    return ⟨expr, operand.after.shallower, by
      have := operand.shorter; simp only [Cursor.size_shallower]; omega⟩
  | _ => parsePostfix c
termination_by 16 * c.size + 5

/-- An operand with its steps. -/
def parsePostfix (c : Cursor) : Step c := do
  let first ← parsePrimary c
  have := first.shorter
  let chain ← extendPostfix first.expr first.after
  return first.close chain rfl
termination_by 16 * c.size + 4

/-- The steps after an operand. -/
def extendPostfix (target : Expr) (c : Cursor) : Except ParseError (Extended c) :=
  match h : c.rest with
  | ⟨.dot, offset⟩ :: _ => do
    have hlt : c.deeper.advance.size < c.size :=
      c.deeper.size_advance_lt (show c.rest ≠ [] from h ▸ List.cons_ne_nil _ _)
    c.deepen offset
    match c.deeper.advance.peek with
    | .identifier name =>
      have := c.deeper.advance.size_advance_le
      let chain ← extendPostfix (.member target name) c.deeper.advance.advance
      return ⟨chain.expr, chain.after, by have := chain.noLonger; omega⟩
    | found => throw ⟨.expectedPropertyName found, c.deeper.advance.offset⟩
  | ⟨.leftBracket, offset⟩ :: _ => do
    have hlt : c.deeper.advance.size < c.size :=
      c.deeper.size_advance_lt (show c.rest ≠ [] from h ▸ List.cons_ne_nil _ _)
    c.deepen offset
    c.deeper.deepen offset
    let position ← parseOr c.deeper.advance.deeper
    have := position.shorter
    let ⟨closed, hclosed⟩ ← expectAfter .rightBracket position.after.shallower isRightBracket
    have : closed.size < c.size := by
      simp only [Cursor.size_shallower, Cursor.size_deeper] at *; omega
    let chain ← extendPostfix (.index target position.expr) closed
    return ⟨chain.expr, chain.after, by have := chain.noLonger; omega⟩
  | _ => .ok (.alone target c)
termination_by 16 * c.size

/-- A literal, a name, an expression in parentheses, or a quoted property of the root. -/
def parsePrimary (c : Cursor) : Step c :=
  match h : c.rest with
  | [] => .error ⟨.unexpected .finish, c.finish⟩
  | ⟨token, offset⟩ :: _ => do
    have hlt : c.advance.size < c.size := c.size_advance_lt (h ▸ List.cons_ne_nil _ _)
    match atom? token with
    | some expr => return ⟨expr, c.advance, hlt⟩
    | none =>
      match token with
      | .leftParen =>
        c.advance.deepen offset
        let inner ← parseOr c.advance.deeper
        have := inner.shorter
        let ⟨closed, hclosed⟩ ← expectAfter .rightParen inner.after.shallower isRightParen
        return ⟨inner.expr, closed, by
          simp only [Cursor.size_shallower, Cursor.size_deeper] at *; omega⟩
      | .leftBracket =>
        match c.advance.peek with
        | .string key =>
          let ⟨closed, hclosed⟩ ← expectAfter .rightBracket c.advance.advance isRightBracket
          return ⟨.property key, closed, by
            have := c.advance.size_advance_le; omega⟩
        | found => throw ⟨.expectedQuotedKey found, offset + 1⟩
      | token => throw ⟨.unexpected token, offset⟩
termination_by 16 * c.size + 3
end

/-- The expression that a list of tokens stands for, up to its end. -/
def parseTokens (tokens : List Lexeme) (finish : Nat) : Except ParseError Expr := do
  let whole ← parseOr ⟨tokens, finish, 0⟩
  let _ ← expect .finish whole.after isFinish
  return whole.expr

end Remap.Expression
