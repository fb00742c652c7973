import Remap.Expression.Basic
import Remap.Proofs.Expression.Lexing

/-!
# The spellings of a property

A property of the root can be written as its bare name, if the name can stand alone, or in quotes
and brackets; either may stand in parentheses, and blanks may stand around every part. `Spelling`
lists these texts.

Main statement: each of them is read as the property.
-/

namespace Remap.Expression

/-! ## Operands alone -/

/-- A production reads an expression and leaves off in front of the tokens `more`, with as many
levels open as before. -/
def Gives (production : (c : Cursor) → Step c) (c : Cursor) (e : Expr) (more : List Lexeme) :
    Prop :=
  ∃ shorter, production c = .ok ⟨e, { c with rest := more }, shorter⟩

/-- The expression ends before these tokens: there are none, or a parenthesis is closed. -/
inductive Closed : List Lexeme → Prop
  | finished : Closed []
  | closing (offset : Nat) (rest : List Lexeme) : Closed (⟨.rightParen, offset⟩ :: rest)

/-- A token that a name or a parenthesis starts with. -/
inductive Opens : Token → Prop
  | name (name : String) : Opens (.identifier name)
  | bracket : Opens .leftBracket
  | paren : Opens .leftParen

namespace Gives

variable {c : Cursor} {e : Expr} {more : List Lexeme}

/-- A chain that nothing extends is its first operand. -/
theorem chain {operand production : (c : Cursor) → Step c}
    {extend : Expr → (c : Cursor) → Except ParseError (Extended c)}
    (defined : production c = do
      let first ← operand c
      let chain ← extend first.expr first.after
      return first.close chain rfl)
    (given : Gives operand c e more) (alone : extend e { c with rest := more } = .ok (.alone e _)) :
    Gives production c e more := by
  obtain ⟨shorter, read⟩ := given
  refine ⟨shorter, ?_⟩
  rw [defined, read]
  simp only [bind, Except.bind]
  rw [alone]
  rfl

variable [Regex.Engine]

theorem steps (operand : Gives parsePrimary c e more) (closed : Closed more) :
    Gives parsePostfix c e more :=
  chain (by rw [parsePostfix]) operand (by cases closed <;> rw [extendPostfix])

theorem sum (operand : Gives parseUnary c e more) (closed : Closed more) :
    Gives parseSum c e more := by
  refine chain (by rw [parseSum]) operand ?_
  cases closed with
  | finished => rw [extendSum]
  | closing =>
    rw [extendSum]
    rfl

theorem comparison (operand : Gives parseSum c e more) (closed : Closed more) :
    Gives parseComparison c e more := by
  obtain ⟨shorter, read⟩ := operand
  refine ⟨shorter, ?_⟩
  rw [parseComparison, read]
  simp only [bind, Except.bind]
  cases closed <;> rfl

theorem conjunction (operand : Gives parseNot c e more) (closed : Closed more) :
    Gives parseAnd c e more :=
  chain (by rw [parseAnd]) operand (by cases closed <;> rw [extendAnd])

theorem disjunction (operand : Gives parseAnd c e more) (closed : Closed more) :
    Gives parseOr c e more :=
  chain (by rw [parseOr]) operand (by cases closed <;> rw [extendOr])

variable {token : Token} {offset finish depth : Nat} {rest : List Lexeme}

theorem unary (operand : Gives parsePostfix ⟨⟨token, offset⟩ :: rest, finish, depth⟩ e more)
    (opens : Opens token) : Gives parseUnary ⟨⟨token, offset⟩ :: rest, finish, depth⟩ e more := by
  obtain ⟨shorter, read⟩ := operand
  refine ⟨shorter, ?_⟩
  rw [← read]
  cases opens <;> rw [parseUnary]

theorem denial (operand : Gives parseComparison ⟨⟨token, offset⟩ :: rest, finish, depth⟩ e more)
    (opens : Opens token) : Gives parseNot ⟨⟨token, offset⟩ :: rest, finish, depth⟩ e more := by
  obtain ⟨shorter, read⟩ := operand
  refine ⟨shorter, ?_⟩
  rw [← read]
  cases opens <;> rw [parseNot]

/-- Where nothing but an operand stands, the operand is the whole expression. -/
theorem whole (operand : Gives parsePrimary ⟨⟨token, offset⟩ :: rest, finish, depth⟩ e more)
    (opens : Opens token) (closed : Closed more) :
    Gives parseOr ⟨⟨token, offset⟩ :: rest, finish, depth⟩ e more := by
  have comparison := (((operand.steps closed).unary opens).sum closed).comparison closed
  exact ((comparison.denial opens).conjunction closed).disjunction closed

/-- A bare name. -/
theorem name (name : String) :
    Gives parsePrimary ⟨⟨.identifier name, offset⟩ :: rest, finish, depth⟩ (.property name)
      rest := by
  refine ⟨Nat.lt_succ_self _, ?_⟩
  rw [parsePrimary]
  rfl

/-- A name in quotes and brackets. -/
theorem quotedName (name : String) (o o' : Nat) :
    Gives parsePrimary
      ⟨⟨.leftBracket, offset⟩ :: ⟨.string name, o⟩ :: ⟨.rightBracket, o'⟩ :: rest, finish, depth⟩
      (.property name) rest := by
  refine ⟨by simp only [Cursor.size, List.length_cons]; omega, ?_⟩
  rw [parsePrimary]
  rfl

/-- An expression in parentheses. -/
theorem inParens {o : Nat} {inner : List Lexeme} (shallow : depth < maxNesting)
    (read : Gives parseOr ⟨inner, finish, depth + 1⟩ e (⟨.rightParen, o⟩ :: rest)) :
    Gives parsePrimary ⟨⟨.leftParen, offset⟩ :: inner, finish, depth⟩ e rest := by
  obtain ⟨shorter, read⟩ := read
  have fewer : rest.length + 1 < inner.length := shorter
  have room : Cursor.deepen ⟨inner, finish, depth⟩ offset = .ok () :=
    if_neg (Nat.not_le.mpr shallow)
  refine ⟨by simp only [Cursor.size, List.length_cons]; omega, ?_⟩
  rw [parsePrimary]
  simp only [atom?, Cursor.advance, List.tail_cons, Cursor.deeper, bind, Except.bind]
  rw [room, read]
  rfl

end Gives

/-! ## Spellings -/

/-- The ways to write a property of the root without blanks around them, each with the number of
parentheses that it stands in. -/
inductive Spelling (name : String) : Nat → List Char → Prop
  | bare (standsAlone : isIdentifier name = true) : Spelling name 0 name.toList
  | quoted {quote : Char} {before after : List Char} (isQuote : quote = '\'' ∨ quote = '"')
      (blankBefore : before.all Text.isBlank = true) (blankAfter : after.all Text.isBlank = true) :
      Spelling name 0
        (['['] ++ (before ++
          (quote :: (Text.doubleQuotes quote name.toList ++ [quote]) ++ (after ++ [']']))))
  | inParens {levels : Nat} {before inner after : List Char} (written : Spelling name levels inner)
      (blankBefore : before.all Text.isBlank = true) (blankAfter : after.all Text.isBlank = true) :
      Spelling name (levels + 1) (['('] ++ (before ++ (inner ++ (after ++ [')']))))

/-- A word ends where the text goes on like this. -/
def EndsWord (rest : List Char) : Prop := ∀ c ∈ rest.head?, isNamePart c = false

theorem EndsWord.nil : EndsWord [] := by
  rintro c ⟨⟩

/-- A word ends before blanks and what may stand after it. -/
theorem EndsWord.blanks {blanks rest : List Char} (blank : blanks.all Text.isBlank = true)
    (ends : EndsWord rest) : EndsWord (blanks ++ rest) := by
  cases blanks with
  | nil => exact ends
  | cons b bs =>
    rintro c ⟨⟩
    rw [List.all_cons, Bool.and_eq_true] at blank
    rw [Bool.eq_false_iff]
    intro part
    have solid := isBlank_eq_false_of_isNamePart part
    rw [blank.1] at solid
    cases solid

/-- A quoted text ends before blanks and a bracket. -/
theorem head?_blanks_bracket {quote : Char} {blanks : List Char} (rest : List Char)
    (isQuote : quote = '\'' ∨ quote = '"') (blank : blanks.all Text.isBlank = true) :
    (blanks ++ ([']'] ++ rest)).head? ≠ some quote := by
  cases blanks with
  | nil => obtain rfl | rfl := isQuote <;> simp
  | cons b bs =>
    rw [List.all_cons, Bool.and_eq_true] at blank
    rintro ⟨⟩
    obtain rfl | rfl := isQuote <;> cases blank.1

/-- The parts of a name that can stand alone. -/
theorem exists_of_isIdentifier {name : String} (h : isIdentifier name = true) :
    ∃ c cs, name.toList = c :: cs ∧ isNameStart c = true ∧ cs.all isNamePart = true ∧
      wordToken name = .identifier name := by
  unfold isIdentifier at h
  split at h
  · cases h
  · next c cs chars =>
    simp only [Bool.and_eq_true, Option.isNone_iff_eq_none] at h
    exact ⟨c, cs, chars, h.1.1, h.1.2, by rw [wordToken, h.2]; rfl⟩

namespace Spelling

variable {name : String} {levels : Nat} {cs : List Char}

/-- A spelling reads as the tokens of an operand, which stands for the property if there is room
for its parentheses. -/
theorem reads [Regex.Engine] (spelling : Spelling name levels cs) (offset : Nat) {rest : List Char}
    (ends : EndsWord rest) :
    ∃ token ls, Opens token ∧ Lexes offset cs (⟨token, offset⟩ :: ls) rest ∧
      ∀ more finish depth, depth + levels ≤ maxNesting →
        Gives parsePrimary ⟨⟨token, offset⟩ :: (ls ++ more), finish, depth⟩ (.property name)
          more := by
  induction spelling generalizing offset rest with
  | bare standsAlone =>
    obtain ⟨c, cs, chars, starts, parts, word⟩ := exists_of_isIdentifier standsAlone
    have piece := Lexes.word offset starts parts ends
    rw [← chars, String.ofList_toList, word] at piece
    exact ⟨.identifier name, [], .name name, piece, fun _ _ _ _ => .name name⟩
  | @quoted quote before after isQuote blankBefore blankAfter =>
    have text := Lexes.quoted (offset + 1 + before.length) isQuote name.toList
      (head?_blanks_bracket rest isQuote blankAfter)
    rw [String.ofList_toList] at text
    exact ⟨_, _, .bracket, text.enclosed .leftBracket .rightBracket blankBefore blankAfter,
      fun _ _ _ _ => .quotedName name _ _⟩
  | @inParens levels before inner after written blankBefore blankAfter ih =>
    have closing : EndsWord ([')'] ++ rest) := by
      rintro c ⟨⟩
      decide
    obtain ⟨token, ls, opens, word, gives⟩ :=
      ih (offset + 1 + before.length) (closing.blanks blankAfter)
    refine ⟨_, (⟨token, _⟩ :: ls) ++ [Lexeme.mk .rightParen _], .paren,
      word.enclosed .leftParen .rightParen blankBefore blankAfter, fun more finish depth room => ?_⟩
    rw [List.append_assoc]
    exact .inParens (by omega)
      ((gives _ finish (depth + 1) (by omega)).whole opens (.closing _ more))

/-- A spelling starts and ends with a character that is not a blank. -/
theorem solid (spelling : Spelling name levels cs) :
    cs ≠ [] ∧ (∀ c ∈ cs.head?, Text.isBlank c = false) ∧
      ∀ c ∈ cs.getLast?, Text.isBlank c = false := by
  cases spelling with
  | bare standsAlone =>
    obtain ⟨c, cs, chars, starts, parts, -⟩ := exists_of_isIdentifier standsAlone
    have named : ∀ d ∈ c :: cs, Text.isBlank d = false := by
      intro d member
      obtain rfl | member := List.mem_cons.1 member
      · exact isBlank_eq_false_of_isNamePart (isNamePart_of_isNameStart starts)
      · exact isBlank_eq_false_of_isNamePart (List.all_eq_true.1 parts d member)
    rw [chars]
    exact ⟨List.cons_ne_nil c cs, fun d first => named d (List.mem_of_mem_head? first),
      fun d last => named d (List.mem_of_mem_getLast? last)⟩
  | quoted | inParens =>
    refine ⟨List.cons_ne_nil _ _, ?_, ?_⟩
    · rintro c ⟨⟩
      rfl
    · intro c last
      simp only [← List.append_assoc, List.getLast?_concat, Option.mem_def,
        Option.some.injEq] at last
      subst last
      rfl

end Spelling

/-- The texts that write a property of the root: its spellings in no more parentheses than can be
open, and with or without blanks around them. -/
inductive Writes (name : String) : String → Prop
  | intro {levels : Nat} {before cs after : List Char} (spelling : Spelling name levels cs)
      (room : levels ≤ maxNesting) (blankBefore : before.all Text.isBlank = true)
      (blankAfter : after.all Text.isBlank = true) :
      Writes name (String.ofList (before ++ cs ++ after))

/-- However a property is written, the text is read as the property. -/
theorem Writes.parse [Regex.Engine] {name text : String} (writes : Writes name text) :
    ∃ e, Expression.parse text = .ok e ∧ e.tree = .property name := by
  cases writes with
  | @intro levels before cs after spelling room blankBefore blankAfter =>
    obtain ⟨present, first, last⟩ := spelling.solid
    have trimmed : Text.trim (String.ofList (before ++ cs ++ after)) = String.ofList cs := by
      rw [Text.trim, String.toList_ofList,
        Text.trimChars_pad blankBefore blankAfter present first last]
    obtain ⟨token, ls, opens, lexes, gives⟩ := spelling.reads 0 .nil
    have whole := (gives [] cs.length 0 (by omega)).whole opens .finished
    rw [List.append_nil] at whole
    obtain ⟨shorter, read⟩ := whole
    have tree : parseTokens (⟨token, 0⟩ :: ls) cs.length = .ok (.property name) := by
      rw [parseTokens, read]
      rfl
    refine ⟨⟨String.ofList cs, .property name⟩, ?_, rfl⟩
    simp only [Expression.parse, trimmed, String.toList_ofList,
      List.isEmpty_eq_false_iff.2 present, lexes.lexemes_eq, Bool.false_eq_true, if_false, bind,
      Except.bind, pure, Except.pure, tree]

end Remap.Expression
