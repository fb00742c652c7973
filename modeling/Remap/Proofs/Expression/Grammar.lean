import Remap.Expression.Parse
import Remap.Proofs.Fallible

/-!
# The grammar of expressions

What the tokens of an expression may be and which tree they stand for:

    or         := and ("||" and)*
    and        := not ("&&" not)*
    not        := "!" not | comparison
    comparison := sum (("==" | "!=" | "<" | "<=" | ">" | ">=" | "matches") sum)?
    sum        := unary (("+" | "-") unary)*
    unary      := "-" unary | steps
    steps      := primary ("." identifier | "[" or "]")*
    primary    := integer | decimal | string | true | false | null
                | identifier | variable | "(" or ")" | "[" string "]"

The rules are stated without a reader in mind. Chains group to the left, so the rule of a chain has
the chain on its left side, and so have the rules of the steps. The trees have each pattern as it is
written; `Expr.withRegexes` is such a tree after its literal patterns have been read.
-/

namespace Remap.Expression

/-- The symbols of the grammar, from loose to tight. -/
inductive Symbol
  | or | and | not | comparison | sum | unary | steps | primary
  deriving DecidableEq, Repr

/-- The symbols that chain operands, and the symbol of their operands. -/
inductive Chains : Symbol → Symbol → Prop
  | or : Chains .or .and
  | and : Chains .and .not
  | sum : Chains .sum .unary
  | steps : Chains .steps .primary

/-- The signs that join the operands of a chain, and what they make of two of them. -/
inductive Joins : Symbol → Token → (Expr → Expr → Expr) → Prop
  | or : Joins .or .or .or
  | and : Joins .and .and .and
  | plus : Joins .sum .plus (.binary .add)
  | minus : Joins .sum .minus (.binary .subtract)

/-- The signs of comparisons. -/
inductive Compares : Token → Operator → Prop
  | equal : Compares .equal .equal
  | notEqual : Compares .notEqual .notEqual
  | less : Compares .less .less
  | lessEqual : Compares .lessEqual .lessEqual
  | greater : Compares .greater .greater
  | greaterEqual : Compares .greaterEqual .greaterEqual

/-- What a minus makes of its operand. That of a numeric literal belongs to the literal. -/
inductive Negates : Expr → Expr → Prop
  | integer {n m : Integer} (opposite : m.val = -n.val) :
    Negates (.literal (.integer n)) (.literal (.integer m))
  | decimal (x : Float) : Negates (.literal (.decimal x)) (.literal (.decimal (-x)))
  | other {operand : Expr} (integer : ∀ n, operand ≠ .literal (.integer n))
    (decimal : ∀ x, operand ≠ .literal (.decimal x)) : Negates operand (.negate operand)

/-- The tokens that are operands by themselves. -/
inductive Atom : Token → Expr → Prop
  | integer (n : Integer) : Atom (.integer n) (.literal (.integer n))
  | decimal (x : Float) : Atom (.decimal x) (.literal (.decimal x))
  | string (s : String) : Atom (.string s) (.literal (.string s))
  | true : Atom .true (.literal (.boolean Bool.true))
  | false : Atom .false (.literal (.boolean Bool.false))
  | null : Atom .null (.literal .null)
  | property (name : String) : Atom (.identifier name) (.property name)
  | variable (name : String) : Atom (.variable name) (.variable name)

/-- The tokens that a symbol stands for, with the tree of them. -/
inductive Derives : Symbol → List Token → Expr → Prop
  | operand {σ τ : Symbol} {w : List Token} {t : Expr} (chains : Chains σ τ)
    (only : Derives τ w t) : Derives σ w t
  | join {σ τ : Symbol} {token : Token} {join : Expr → Expr → Expr} {w v : List Token}
    {l r : Expr} (chains : Chains σ τ) (joins : Joins σ token join)
    (left : Derives σ w l) (right : Derives τ v r) : Derives σ (w ++ token :: v) (join l r)
  | denial {w : List Token} {t : Expr} (inner : Derives .not w t) :
    Derives .not (.not :: w) (.not t)
  | affirmed {w : List Token} {t : Expr} (inner : Derives .comparison w t) : Derives .not w t
  | uncompared {w : List Token} {t : Expr} (inner : Derives .sum w t) : Derives .comparison w t
  | compared {token : Token} {operator : Operator} {w v : List Token} {l r : Expr}
    (compares : Compares token operator) (left : Derives .sum w l) (right : Derives .sum v r) :
    Derives .comparison (w ++ token :: v) (.binary operator l r)
  | matched {w v : List Token} {subject pattern : Expr}
    (left : Derives .sum w subject) (right : Derives .sum v pattern) :
    Derives .comparison (w ++ .matches :: v) (.matchesDynamic subject pattern)
  | negation {w : List Token} {t t' : Expr} (inner : Derives .unary w t) (negates : Negates t t') :
    Derives .unary (.minus :: w) t'
  | positive {w : List Token} {t : Expr} (inner : Derives .steps w t) : Derives .unary w t
  | member {w : List Token} {target : Expr} {name : String} (left : Derives .steps w target) :
    Derives .steps (w ++ [.dot, .identifier name]) (.member target name)
  | index {w v : List Token} {target position : Expr} (left : Derives .steps w target)
    (inner : Derives .or v position) :
    Derives .steps (w ++ .leftBracket :: (v ++ [.rightBracket])) (.index target position)
  | atom {token : Token} {t : Expr} (single : Atom token t) : Derives .primary [token] t
  | group {w : List Token} {t : Expr} (inner : Derives .or w t) :
    Derives .primary (.leftParen :: (w ++ [.rightParen])) t
  | key {name : String} :
    Derives .primary [.leftBracket, .string name, .rightBracket] (.property name)

/-! ## Literal patterns -/

/-- A pattern that is no regular expression, and why. -/
abbrev BadPattern := String × Regex.ReadError

variable [Regex.Engine]

/-- A match of a subject; a literal pattern is read. -/
def Expr.matching (subject pattern : Expr) : Except BadPattern Expr :=
  match pattern with
  | .literal (.string p) =>
    match Regex.Engine.read (wholeMatch p) with
    | .ok regex => .ok (.matchesRegex subject regex)
    | .error cause => .error (p, cause)
  | _ => .ok (.matchesDynamic subject pattern)

/-- The tree with its literal patterns read, or the first of them that cannot be. -/
def Expr.withRegexes : Expr → Except BadPattern Expr
  | .member target name => do return .member (← target.withRegexes) name
  | .index target position => do return .index (← target.withRegexes) (← position.withRegexes)
  | .not operand => do return .not (← operand.withRegexes)
  | .negate operand => do return .negate (← operand.withRegexes)
  | .or left right => do return .or (← left.withRegexes) (← right.withRegexes)
  | .and left right => do return .and (← left.withRegexes) (← right.withRegexes)
  | .binary operator left right => do
    return .binary operator (← left.withRegexes) (← right.withRegexes)
  | .matchesRegex subject regex => do return .matchesRegex (← subject.withRegexes) regex
  | .matchesDynamic subject pattern => do
    (← subject.withRegexes).matching (← pattern.withRegexes)
  | .literal l => .ok (.literal l)
  | .property name => .ok (.property name)
  | .variable name => .ok (.variable name)

/-- Reading the patterns of a chain is reading those of its operands. -/
theorem Joins.withRegexes_eq {σ : Symbol} {token : Token} {join : Expr → Expr → Expr}
    (joins : Joins σ token join) (l r : Expr) :
    (join l r).withRegexes = (do return join (← l.withRegexes) (← r.withRegexes)) := by
  cases joins <;> rfl

/-- Reading patterns makes no literals. -/
theorem Expr.eq_of_withRegexes_literal {t : Expr} {l : Literal}
    (read : t.withRegexes = .ok (.literal l)) : t = .literal l := by
  cases t with
  | literal => cases read; rfl
  | property => cases read
  | «variable» => cases read
  | matchesDynamic subject pattern =>
    simp only [withRegexes, bind_eq_ok] at read
    obtain ⟨s, -, p, -, read⟩ := read
    unfold matching at read
    split at read
    · split at read <;> cases read
    · cases read
  | member | not | negate | matchesRegex =>
    simp only [withRegexes, bind_eq_ok, pure_eq_ok] at read
    obtain ⟨_, -, same⟩ := read
    cases same
  | index | or | and | binary =>
    simp only [withRegexes, bind_eq_ok, pure_eq_ok] at read
    obtain ⟨_, -, _, -, same⟩ := read
    cases same

/-- A minus may stand before an operand or before what comes of its patterns. -/
theorem Negates.of_withRegexes {t operand e : Expr} (read : t.withRegexes = .ok operand)
    (negates : Negates operand e) : ∃ t', Negates t t' ∧ t'.withRegexes = .ok e := by
  cases negates with
  | integer opposite =>
    obtain rfl := Expr.eq_of_withRegexes_literal read
    exact ⟨_, .integer opposite, rfl⟩
  | decimal x =>
    obtain rfl := Expr.eq_of_withRegexes_literal read
    exact ⟨_, .decimal x, rfl⟩
  | other integer decimal =>
    refine ⟨.negate t, .other ?_ ?_, ?_⟩
    · rintro n rfl
      cases read
      exact integer n rfl
    · rintro x rfl
      cases read
      exact decimal x rfl
    · simp only [Expr.withRegexes, read]
      rfl

/-- What a minus makes of an operand, it makes of what comes of its patterns. -/
theorem Negates.exists_map {t t' : Expr} (negates : Negates t t') :
    ∃ f : Expr → Expr, t'.withRegexes = (do return f (← t.withRegexes)) ∧
      ∀ e, t.withRegexes = .ok e → Negates e (f e) := by
  cases negates with
  | integer opposite =>
    refine ⟨fun _ => _, rfl, fun e read => ?_⟩
    cases read
    exact .integer opposite
  | decimal x =>
    refine ⟨fun _ => _, rfl, fun e read => ?_⟩
    cases read
    exact .decimal x
  | other integer decimal =>
    refine ⟨.negate, rfl, fun e read => .other ?_ ?_⟩
    · rintro n rfl
      exact integer n (Expr.eq_of_withRegexes_literal read)
    · rintro x rfl
      exact decimal x (Expr.eq_of_withRegexes_literal read)

end Remap.Expression
