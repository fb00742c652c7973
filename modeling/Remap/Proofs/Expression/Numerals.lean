import Remap.Proofs.Expression.Arithmetic
import Remap.Proofs.Expression.Completeness
import Remap.Proofs.Expression.Property
import Remap.Proofs.Path.Evaluation
import Remap.Regex.Reader

/-!
# Integers written down

The tokens know no sign, so a negative integer is written as a minus and the digits of its
magnitude, and the minus is taken into the literal when the tokens are read. The magnitude has to
be an integer by itself before the minus is looked at. That of the least integer is none.

Main statement: the text of every integer but the least one is read as its literal, by itself and
on the right of a comparison.
-/

namespace Remap

namespace Integer

/-- The least integer with an opposite. -/
def leastOpposed : Integer := ⟨-9223372036854775807, by decide, by decide⟩

/-- Every other integer has an opposite. -/
theorem exists_opposite {n : Integer} (above : n ≠ minimum) : ∃ m : Integer, n.val = -m.val := by
  have low := n.minimum_le
  have high := n.le_maximum
  have other : n.val ≠ -9223372036854775808 := fun same => above (Integer.ext same)
  exact ⟨⟨-n.val, by omega, by omega⟩, (Int.neg_neg n.val).symm⟩

theorem text_of_unsigned {n : Integer} (unsigned : 0 ≤ n.val) :
    n.text = String.ofList (Number.digits n.val.natAbs) := by
  rw [text, if_neg (Int.not_lt.mpr unsigned)]

theorem text_of_negative {n m : Integer} (negative : n.val < 0) (opposite : n.val = -m.val) :
    n.text = String.ofList ('-' :: m.text.toList) := by
  have unsigned : 0 ≤ m.val := by omega
  have magnitude : n.val.natAbs = m.val.natAbs := by omega
  rw [text, if_pos negative, text_of_unsigned unsigned, String.toList_ofList, magnitude]

theorem toList_text_ne_nil (n : Integer) : n.text.toList ≠ [] := by
  rw [text, String.toList_ofList]
  split
  · exact List.cons_ne_nil _ _
  · exact Number.digits_ne_nil _

/-- The text of an integer holds no blanks. -/
theorem isBlank_eq_false_of_mem_text {n : Integer} {c : Char} (member : c ∈ n.text.toList) :
    Text.isBlank c = false := by
  rw [text, String.toList_ofList] at member
  split at member
  · rcases List.mem_cons.mp member with rfl | member
    · rfl
    · exact Text.isBlank_eq_false_of_isDigit (Number.isDigit_of_mem_digits member)
  · exact Text.isBlank_eq_false_of_isDigit (Number.isDigit_of_mem_digits member)

theorem isBlank_eq_false_of_head?_text {n : Integer} :
    ∀ c ∈ n.text.toList.head?, Text.isBlank c = false :=
  fun _ member => isBlank_eq_false_of_mem_text (List.mem_of_mem_head? member)

theorem isBlank_eq_false_of_getLast?_text {n : Integer} :
    ∀ c ∈ n.text.toList.getLast?, Text.isBlank c = false :=
  fun _ member => isBlank_eq_false_of_mem_text (List.mem_of_mem_getLast? member)

theorem trim_text (n : Integer) : Text.trim n.text = n.text := by
  rw [Text.trim, Text.trimChars_eq_self n.toList_text_ne_nil isBlank_eq_false_of_head?_text
    isBlank_eq_false_of_getLast?_text, String.ofList_toList]

/-- Digits of a number above the limit lead out of it. -/
theorem readMagnitude_eq_error {limit : Nat} {outside : ReadError} {cs : List Char} {n : Nat}
    (digits : ∀ c ∈ cs, c.isDigit = true) (inside : n ≤ limit)
    (large : limit < cs.foldl (fun n c => 10 * n + Number.digitValue c) n) :
    readMagnitude limit outside n cs = .error outside := by
  induction cs generalizing n with
  | nil => exact absurd large (Nat.not_lt.mpr inside)
  | cons c cs ih =>
    have digit : c.isDigit = true := digits c List.mem_cons_self
    rw [readMagnitude, digit]
    by_cases fits : 10 * n + Number.digitValue c ≤ limit
    · simp only [Bool.not_true, Bool.false_eq_true, if_false, if_pos fits]
      exact ih (fun d member => digits d (List.mem_cons_of_mem c member)) fits large
    · simp only [Bool.not_true, Bool.false_eq_true, if_false, if_neg fits]

/-- The digits of a number that is too large are refused. -/
theorem read_digits_eq_error {m : Nat} (large : 9223372036854775807 < m) :
    read (Number.digits m) = .error .aboveRange := by
  have digits : ∀ c ∈ Number.digits m, c.isDigit = true := fun c => Number.isDigit_of_mem_digits
  have value : (Number.digits m).foldl (fun n c => 10 * n + Number.digitValue c) 0 = m :=
    Number.ofDigits_digits m
  have magnitude : readMagnitude 9223372036854775807 .aboveRange 0 (Number.digits m) =
      .error .aboveRange :=
    readMagnitude_eq_error digits (Nat.zero_le _) (by rw [value]; exact large)
  cases written : Number.digits m with
  | nil => exact absurd written (Number.digits_ne_nil m)
  | cons c cs =>
    rw [read_of_isDigit (digits c (written ▸ List.mem_cons_self)), ← written, magnitude]
    rfl

end Integer

namespace Expression

/-! ## Numbers as tokens -/

/-- A whole number ends where the text goes on like this. -/
def EndsNumber (rest : List Char) : Prop := ∀ c ∈ rest.head?, c.isDigit = false ∧ c ≠ '.'

theorem EndsNumber.nil : EndsNumber [] := by
  rintro c ⟨⟩

/-- Digits are taken up to the end of the number, and no point follows. -/
theorem readNumber_of_digits {digits rest : List Char} (all : ∀ c ∈ digits, c.isDigit = true)
    (ends : EndsNumber rest) :
    readNumber (digits ++ rest) = readNumber.readWhole digits := by
  have taken : (digits ++ rest).takeWhile Char.isDigit = digits :=
    Lexes.takeWhile_append_of_ends (List.all_eq_true.mpr all) fun d member => (ends d member).1
  have left : (digits ++ rest).dropWhile Char.isDigit = rest := by
    have whole := @List.takeWhile_append_dropWhile _ Char.isDigit (digits ++ rest)
    rw [taken] at whole
    exact List.append_cancel_left whole
  unfold readNumber
  simp only [taken, left]
  split
  · exact absurd rfl (ends '.' rfl).2
  · rfl

/-- A number does not start with a sign. -/
theorem sign?_of_isDigit {c : Char} (digit : c.isDigit = true) (next : Option Char) :
    sign? c next = none := by
  unfold sign?
  split
  all_goals first | rfl | exact absurd digit (by decide)

theorem ne_of_isDigit {c d : Char} (digit : c.isDigit = true) (other : d.isDigit = false) :
    (c == d) = false := by
  rw [beq_eq_false_iff_ne]
  rintro rfl
  rw [digit] at other
  cases other

/-- Digits are read as a whole number. -/
theorem readToken_of_digits {c : Char} {cs rest : List Char}
    (digits : ∀ d ∈ c :: cs, d.isDigit = true) (ends : EndsNumber rest) :
    readToken c (cs ++ rest) =
      (readNumber.readWhole (c :: cs)).map fun (token, size) => (token, size - 1) := by
  have digit : c.isDigit = true := digits c List.mem_cons_self
  have single : (c == '\'') = false := ne_of_isDigit digit (by decide)
  have double : (c == '"') = false := ne_of_isDigit digit (by decide)
  have hash : (c == '#') = false := ne_of_isDigit digit (by decide)
  have number := readNumber_of_digits digits ends
  rw [List.cons_append] at number
  simp only [readToken, sign?_of_isDigit digit, single, double, hash, digit, number, Bool.or_self,
    Bool.false_eq_true, if_false, if_true]

/-- An integer without a sign, which nothing after it goes on with. -/
theorem Lexes.integer (offset : Nat) {n : Integer} {rest : List Char} (unsigned : 0 ≤ n.val)
    (ends : EndsNumber rest) : Lexes offset n.text.toList [⟨.integer n, offset⟩] rest := by
  have read := Integer.read_text n
  rw [Integer.text_of_unsigned unsigned, String.toList_ofList] at read ⊢
  have digits : ∀ c ∈ Number.digits n.val.natAbs, c.isDigit = true :=
    fun c => Number.isDigit_of_mem_digits
  cases written : Number.digits n.val.natAbs with
  | nil => exact absurd written (Number.digits_ne_nil _)
  | cons c cs =>
    rw [written] at read digits
    refine token (Text.isBlank_eq_false_of_isDigit (digits c List.mem_cons_self)) ?_
    rw [readToken_of_digits digits ends, readNumber.readWhole, read]
    rfl

/-- The digits of a number that is too large are reported where they start. -/
theorem lexemes_of_large (offset : Nat) {m : Nat} (large : 9223372036854775807 < m) :
    lexemes offset (Number.digits m) =
      .error ⟨.integerTooLarge (String.ofList (Number.digits m)), offset⟩ := by
  have digits : ∀ c ∈ Number.digits m, c.isDigit = true := fun c => Number.isDigit_of_mem_digits
  have refused := Integer.read_digits_eq_error large
  cases written : Number.digits m with
  | nil => exact absurd written (Number.digits_ne_nil m)
  | cons c cs =>
    rw [written] at digits refused
    have solid := Text.isBlank_eq_false_of_isDigit (digits c List.mem_cons_self)
    have token := readToken_of_digits digits .nil
    rw [List.append_nil, readNumber.readWhole, refused] at token
    rw [lexemes, if_neg (by simp [solid]), token]
    rfl

theorem Sign.minus : Sign '-' .minus := ⟨rfl, fun _ => rfl⟩

/-! ## Literals -/

variable {ls : List Lexeme} {w : List Token} {t : Expr}

theorem Derives.or_of_comparison (derives : Derives .comparison w t) : Derives .or w t :=
  .operand .or (.operand .and (.affirmed derives))

theorem Derives.unary_of_atom {token : Token} (single : Atom token t) :
    Derives .unary [token] t :=
  .positive (.operand .steps (.atom single))

/-- The text of an integer reads as one token or two, which stand for the literal. -/
theorem exists_lexes_integer {n : Integer} (above : n ≠ .minimum) (offset : Nat)
    {rest : List Char} (ends : EndsNumber rest) :
    ∃ ls, Lexes offset n.text.toList ls rest ∧ ls.length ≤ 2 ∧
      Derives .unary (tokensOf ls) (.literal (.integer n)) := by
  by_cases negative : n.val < 0
  · obtain ⟨m, opposite⟩ := Integer.exists_opposite above
    have magnitude := Lexes.integer (offset + 1) (n := m) (by omega) ends
    have minus : Lexes offset ['-'] _ (m.text.toList ++ rest) := .sign .minus
    have signed := minus.append magnitude
    rw [Integer.text_of_negative negative opposite, String.toList_ofList]
    exact ⟨_, signed, Nat.le_refl 2, .negation (.unary_of_atom (.integer m)) (.integer opposite)⟩
  · exact ⟨_, .integer offset (Int.not_lt.mp negative) ends, Nat.le_succ 1,
      .unary_of_atom (.integer n)⟩

/-- A text without blanks at its ends whose tokens derive a tree without patterns, and are too few
to be nested too deeply, is read as the tree. -/
theorem parse_of_derives [Regex.Engine] {text : String} (present : text.toList ≠ [])
    (first : ∀ c ∈ text.toList.head?, Text.isBlank c = false)
    (last : ∀ c ∈ text.toList.getLast?, Text.isBlank c = false) (piece : Lexes 0 text.toList ls [])
    (few : ls.length ≤ maxNesting) (derives : Derives .or (tokensOf ls) t)
    (plain : t.withRegexes = .ok t) :
    Expression.parse text = .ok ⟨text, t⟩ := by
  have trimmed : Text.trim text = text := by
    rw [Text.trim, Text.trimChars_eq_self present first last, String.ofList_toList]
  have lexed : lexemes 0 (Text.trim text).toList = .ok ls := by
    rw [trimmed]
    exact piece.lexemes_eq
  have parsed := parse_of_lexemes lexed (by rwa [trimmed])
  have follows := derives.follows_parseTokens text.toList.length
  rw [trimmed] at parsed
  rw [parsed]
  generalize parseTokens ls text.toList.length = outcome at follows
  rw [plain] at follows
  cases follows with
  | tooDeep offset deep => exact absurd few (Nat.not_le.mpr deep)
  | read => rfl

/-- A text that gives no tokens is not read. -/
theorem parse_of_lexemes_eq_error [Regex.Engine] {text : String} {e : ParseError}
    (failed : lexemes 0 (Text.trim text).toList = .error e) : Expression.parse text = .error e := by
  have present : (Text.trim text).toList ≠ [] := by
    intro empty
    rw [empty, lexemes] at failed
    cases failed
  unfold Expression.parse
  simp only [List.isEmpty_iff, if_neg present, failed]
  rfl

/-! ## Comparisons with an integer -/

/-- A property compared with an integer, as text. -/
def integerGuard (name : String) (n : Integer) : String := name ++ " == " ++ n.text

theorem toList_integerGuard (name : String) (n : Integer) :
    (integerGuard name n).toList =
      name.toList ++ ([' '] ++ (['=', '='] ++ ([' '] ++ n.text.toList))) := by
  rw [integerGuard, String.toList_append, String.toList_append, List.append_assoc]
  rfl

theorem exists_lexes_integerGuard {name : String} (standsAlone : isIdentifier name = true)
    {n : Integer} (above : n ≠ .minimum) :
    ∃ ls, Lexes 0 (integerGuard name n).toList ls [] ∧ ls.length ≤ 4 ∧
      Derives .or (tokensOf ls) (.binary .equal (.property name) (.literal (.integer n))) := by
  obtain ⟨c, cs, chars, starts, parts, word⟩ := exists_of_isIdentifier standsAlone
  have ends : EndsWord ([' '] ++ (['=', '='] ++ ([' '] ++ n.text.toList)) ++ []) := by
    rintro d ⟨⟩
    decide
  have named := Lexes.word 0 starts parts ends
  rw [← chars, String.ofList_toList, word] at named
  have equal : Lexes (0 + name.toList.length + 1) ['=', '='] [⟨.equal, _⟩]
      (([' '] ++ n.text.toList) ++ []) := .token rfl rfl
  obtain ⟨ls, number, few, literal⟩ :=
    exists_lexes_integer above (0 + name.toList.length + 1 + 2 + 1) .nil
  have compared := equal.append (.append (.blanks rfl) number)
  have whole := named.append (.append (.blanks rfl) compared)
  rw [toList_integerGuard]
  refine ⟨_, whole, Nat.succ_le_succ (Nat.succ_le_succ few), .or_of_comparison ?_⟩
  exact .compared .equal (.operand .sum (.unary_of_atom (.property name))) (.operand .sum literal)

/-- The guard is read as the comparison that it shows. -/
theorem parse_integerGuard [Regex.Engine] {name : String} (standsAlone : isIdentifier name = true)
    {n : Integer} (above : n ≠ .minimum) :
    Expression.parse (integerGuard name n) = .ok ⟨integerGuard name n,
      .binary .equal (.property name) (.literal (.integer n))⟩ := by
  obtain ⟨ls, piece, few, derives⟩ := exists_lexes_integerGuard standsAlone above
  obtain ⟨c, cs, chars, starts, -, -⟩ := exists_of_isIdentifier standsAlone
  have shape := toList_integerGuard name n
  have present : (integerGuard name n).toList ≠ [] := by
    rw [shape, chars]
    exact List.cons_ne_nil _ _
  have first : ∀ d ∈ (integerGuard name n).toList.head?, Text.isBlank d = false := by
    rw [shape, chars]
    rintro d ⟨⟩
    exact isBlank_eq_false_of_isNamePart (isNamePart_of_isNameStart starts)
  have last : ∀ d ∈ (integerGuard name n).toList.getLast?, Text.isBlank d = false := by
    have number : n.text.toList.getLast?.isSome := List.getLast?_isSome.mpr n.toList_text_ne_nil
    rw [shape, ← List.append_assoc, ← List.append_assoc, ← List.append_assoc, List.getLast?_append,
      Option.or_of_isSome number]
    exact Integer.isBlank_eq_false_of_getLast?_text
  exact parse_of_derives present first last piece (Nat.le_trans few (by decide)) derives rfl

/-- The comparison of two integers holds if they are one. -/
theorem holds_integerGuard [Regex.Engine] {name text : String} {n m : Integer} {env : Environment}
    {r : Record} (root : env.root = .record r) (bound : r.get? name = some (.integer m)) :
    Expression.holds ⟨text, .binary .equal (.property name) (.literal (.integer n))⟩ env =
      .ok (decide (m = n)) := by
  have verdict : (m.val == n.val) = decide (m = n) := by
    rw [Bool.eq_iff_iff, beq_iff_eq, decide_eq_true_eq, Integer.ext_iff]
  rw [Expression.holds, Expression.evaluate, Expr.evaluate, Expr.evaluate, Expr.evaluate, root,
    readProperty, bound, ← verdict]
  rfl

/-- Every integer but the least one can be written down. Its text is read as its literal, and a
guard that compares a property with the text holds exactly where the property is this integer. -/
theorem integer_text_is_literal [Regex.Engine] (n : Integer) (above : n ≠ .minimum) :
    Expression.parse n.text = .ok ⟨n.text, .literal (.integer n)⟩ ∧
      ∀ name, isIdentifier name = true →
        ∃ guard, Expression.parse (name ++ " == " ++ n.text) = .ok guard ∧
          ∀ (env : Environment) (r : Record) (m : Integer), env.root = .record r →
            r.get? name = some (.integer m) → guard.holds env = .ok (decide (m = n)) := by
  constructor
  · obtain ⟨ls, piece, few, literal⟩ := exists_lexes_integer above 0 .nil
    have derives := (Derives.operand .sum literal).uncompared.or_of_comparison
    have shallow : ls.length ≤ maxNesting := Nat.le_trans few (by decide)
    exact parse_of_derives n.toList_text_ne_nil Integer.isBlank_eq_false_of_head?_text
      Integer.isBlank_eq_false_of_getLast?_text piece shallow derives rfl
  · intro name standsAlone
    refine ⟨_, parse_integerGuard standsAlone above, ?_⟩
    intro env r m root bound
    exact holds_integerGuard root bound

/-- The least integer that can be written down is read, and a counter is compared with it. -/
theorem least_written_is_literal :
    Expression.parse "-9223372036854775807" =
        .ok ⟨"-9223372036854775807", .literal (.integer Integer.leastOpposed)⟩ ∧
      ∃ guard, Expression.parse ("count" ++ " == " ++ "-9223372036854775807") = .ok guard ∧
        guard.holds ⟨.record ⟨.unnamed, [("count", .integer Integer.leastOpposed)]⟩, []⟩ =
          .ok true := by
  have written : Integer.text Integer.leastOpposed = "-9223372036854775807" := by
    rw [Integer.text, Number.digits_eq_toDigits]
    decide
  have other : Integer.leastOpposed ≠ .minimum := by decide
  obtain ⟨literal, compared⟩ := integer_text_is_literal Integer.leastOpposed other
  obtain ⟨guard, parsed, holds⟩ := compared "count" (by decide)
  have verdict := holds ⟨.record ⟨.unnamed, [("count", .integer Integer.leastOpposed)]⟩, []⟩ _ _
    rfl rfl
  rw [decide_eq_true rfl] at verdict
  rw [written] at literal parsed
  exact ⟨literal, guard, parsed, verdict⟩

/-- The least integer cannot be written down: its magnitude is refused, whatever sign stands before
it. -/
theorem minimum_is_not_written :
    Integer.minimum.text = "-9223372036854775808" ∧
      Expression.parse Integer.minimum.text =
        .error ⟨.integerTooLarge "9223372036854775808", 1⟩ := by
  have digits : Number.digits 9223372036854775808 = "9223372036854775808".toList := by
    rw [Number.digits_eq_toDigits]
    decide
  have written : Integer.minimum.text.toList = ['-'] ++ Number.digits 9223372036854775808 := by
    rw [Integer.text, String.toList_ofList]
    rfl
  have failed : lexemes 0 Integer.minimum.text.toList = .error
      ⟨.integerTooLarge (String.ofList (Number.digits 9223372036854775808)), 1⟩ := by
    have minus : Lexes 0 ['-'] _ (Number.digits 9223372036854775808) := .sign .minus
    unfold Lexes at minus
    rw [written, minus, lexemes_of_large _ (by decide)]
    rfl
  rw [← Integer.trim_text] at failed
  constructor
  · rw [← String.toList_inj, written, digits]
    rfl
  · rw [parse_of_lexemes_eq_error failed, digits, String.ofList_toList]

end Expression

end Remap
