import Remap.Proofs.Expression.Blame
import Remap.Proofs.Expression.Completeness
import Remap.Proofs.Expression.Machine
import Remap.Regex.Reader

/-!
# Errors point at the offending token

A run does not look further than to the token that it stops at (`Script.Runs.swap`). So it stops
there whatever comes behind the token, and since the reader accepts what the grammar derives, no
expression goes on with that token. Main statement: `parse_error_points`, errors that name a token
name the first one that does not fit, and are reported where it starts; the error for a missing
quoted name is the exception.
-/

namespace Remap.Expression

/-! ## What a run does not see -/

/-- The cursor with other tokens left. -/
def Cursor.onto (c : Cursor) (rest : List Lexeme) : Cursor := { c with rest := rest }

/-- The end with other tokens left. -/
def Ending.onto : Ending → List Lexeme → Ending
  | done e c, rest => done e (c.onto rest)
  | failed e c taken, rest => failed e (c.onto rest) taken

theorem Cursor.leave?_onto {closes : Bool} {c d : Cursor} (closed : c.leave? closes = some d)
    (rest : List Lexeme) : (c.onto rest).leave? closes = some (d.onto rest) := by
  obtain ⟨opened, rfl⟩ := leave?_eq_some_iff.mp closed
  refine leave?_eq_some_iff.mpr ⟨opened, ?_⟩
  cases closes <;> rfl

namespace Script

variable {l : Lexeme} {after : List Lexeme}

theorem glance_onto {c : Cursor} {front : List Lexeme} (rest : c.rest = front ++ l :: after)
    (after' : List Lexeme) : (c.onto (front ++ l :: after')).glance = c.glance := by
  obtain ⟨ls, finish, depth⟩ := c
  obtain rfl : ls = front ++ l :: after := rest
  cases front <;> rfl

/-- A run does not look further than to the token that it ends before. -/
theorem Runs.swap [Regex.Engine] {s : Script} {c : Cursor} {r : Ending} (runs : s.Runs c r)
    (after' : List Lexeme) : ∀ front back : List Lexeme, c.rest = front ++ l :: after →
      r.last.rest = back ++ l :: after →
      s.Runs (c.onto (front ++ l :: after')) (r.onto (back ++ l :: after')) := by
  induction runs with
  | done =>
    intro front back rest last
    obtain rfl := List.append_cancel_right (rest.symm.trans last)
    exact .done
  | fail =>
    intro front back rest last
    obtain rfl := List.append_cancel_right (rest.symm.trans last)
    exact .fail
  | full full =>
    intro front back rest last
    obtain rfl := List.append_cancel_right (rest.symm.trans last)
    exact .full full
  | look more ih =>
    intro front back rest last
    refine .look ?_
    rw [glance_onto rest]
    exact ih _ _ rest last
  | @advance next c r more ih =>
    intro front back rest last
    cases front with
    | nil =>
      -- Past the token that it ends before, a run would have fewer tokens left than at its end.
      have short : (back ++ l :: after).length ≤ c.rest.tail.length := last ▸ more.suffix.length_le
      rw [rest, List.length_append, List.nil_append, List.tail_cons, List.length_cons] at short
      omega
    | cons x front => exact .advance (ih front back (congrArg List.tail rest) last)
  | deepen room more ih => exact fun _ _ rest last => .deepen room (ih _ _ rest last)
  | restore more ih => exact fun _ _ rest last => .restore (ih _ _ rest last)
  | @call closes τ next e c d d' r inner closed more ihInner ihMore =>
    intro front back rest last
    obtain ⟨-, same⟩ := Cursor.leave?_eq_some_iff.mp closed
    obtain ⟨between, left⟩ : (back ++ l :: after) <:+ d.rest := by
      rw [← last, ← d.rest_leave closes, same]
      exact more.suffix
    rw [← List.append_assoc] at left
    have left' : d'.rest = between ++ back ++ l :: after := by rw [← same, d.rest_leave, left]
    exact .call (ihInner _ _ rest left.symm) (Cursor.leave?_onto closed _) (ihMore _ _ left' last)
  | @raised closes τ next e c d d' taken inner closed ihInner =>
    intro front back rest last
    obtain ⟨-, same⟩ := Cursor.leave?_eq_some_iff.mp closed
    have last : d.rest = back ++ l :: after := by
      rw [← last, Ending.last, ← same, Cursor.rest_leave]
    exact .raised (ihInner _ _ rest last) (Cursor.leave?_onto closed _)
  | loop more ih => exact fun _ _ rest last => .loop (ih _ _ rest last)

end Script

theorem Script.Runs.finish_eq [Regex.Engine] {s : Script} {c : Cursor} {r : Ending}
    (runs : s.Runs c r) : r.last.finish = c.finish := by
  induction runs with
  | done | fail | full => rfl
  | look more ih | advance more ih | deepen room more ih | restore more ih | loop more ih =>
    exact ih
  | @call closes τ next e c d d' r inner closed more ihInner ihMore =>
    obtain ⟨-, rfl⟩ := Cursor.leave?_eq_some_iff.mp closed
    cases closes <;> exact ihMore.trans ihInner
  | @raised closes τ next e c d d' taken inner closed ihInner =>
    obtain ⟨-, rfl⟩ := Cursor.leave?_eq_some_iff.mp closed
    cases closes <;> exact ihInner

/-! ## A whole expression -/

namespace Script

/-- An expression, and the end behind it. -/
def whole : Script := call false .or fun e => expect .finish isFinish (done e)

variable [Regex.Engine]

theorem exists_runs_whole (c : Cursor) : ∃ r, whole.Runs c r := by
  obtain ⟨r, runs, -⟩ := (Production.whole .or).ends c
  cases r with
  | failed e d taken => exact ⟨_, .raised runs rfl⟩
  | done e d =>
    have last : ∃ r, (expect .finish isFinish (done e)).Runs d r := by
      by_cases ended : isFinish d.glance.token = true
      · exact ⟨_, .look (by rw [if_pos ended]; exact .advance .done)⟩
      · exact ⟨_, .look (by rw [if_neg ended]; exact .fail)⟩
    obtain ⟨r, last⟩ := last
    exact ⟨r, .call runs rfl last⟩

theorem blames_whole (c : Cursor) : whole.Blames .or [] c :=
  ⟨fun _ => id, fun _ _ _ _ denotes => .expect (.of_denotes denotes) fun _ => trivial⟩

end Script

theorem parseTokens_eq_exec [Regex.Engine] (tokens : List Lexeme) (finish : Nat) :
    parseTokens tokens finish = (Script.whole.exec ⟨tokens, finish, 0⟩).map Prod.fst := by
  rw [parseTokens_eq, Script.whole, Script.exec]
  cases Symbol.or.run ⟨tokens, finish, 0⟩ with
  | error => rfl
  | ok read =>
    obtain ⟨e, d⟩ := read
    change _ = ((Script.expect _ _ _).exec d).map Prod.fst
    rw [Script.exec_expect]
    change (expect .finish d isFinish >>= _) = _
    cases expect .finish d isFinish <;> rfl

/-- Tokens that are derived are not refused for one of them. -/
theorem Derives.found?_eq_none [Regex.Engine] {ls : List Lexeme} {finish : Nat} {t : Expr}
    {e : ParseError} (derives : Derives .or (tokensOf ls) t)
    (failed : parseTokens ls finish = .error e) :
    e.failure.found? = none := by
  have follows := derives.follows_parseTokens finish
  generalize parseTokens ls finish = x at follows failed
  generalize t.withRegexes = y at follows
  cases follows with
  | tooDeep => cases failed; rfl
  | read => cases failed
  | badPattern => cases failed; rfl

theorem Derives.finish_notMem {σ : Symbol} {w : List Token} {t : Expr} (derives : Derives σ w t) :
    .finish ∉ w := by
  induction derives with
  | operand chains only ih | affirmed inner ih | uncompared inner ih | positive inner ih => exact ih
  | join chains joins left right ihLeft ihRight => cases joins <;> simp [ihLeft, ihRight]
  | denial inner ih => simp [ih]
  | compared compares left right ihLeft ihRight => cases compares <;> simp [ihLeft, ihRight]
  | matched left right ihLeft ihRight => simp [ihLeft, ihRight]
  | negation inner negates ih => simp [ih]
  | member left ih => simp [ih]
  | index left inner ihLeft ihInner => simp [ihLeft, ihInner]
  | atom single => cases single <;> simp
  | group inner ih => simp [ih]
  | key => simp

/-- A run of a whole expression is what comes of the tokens. -/
theorem Script.Runs.parseTokens_eq [Regex.Engine] {tokens : List Lexeme} {finish : Nat} {r : Ending}
    (runs : whole.Runs ⟨tokens, finish, 0⟩ r) :
    parseTokens tokens finish = r.outcome.map Prod.fst := by
  rw [parseTokens_eq_exec, runs.outcome_eq]

/-- Tokens that are no expression, up to the first one that none goes on with. -/
theorem parseTokens_points [Regex.Engine] {tokens : List Lexeme} {finish : Nat} {e : ParseError}
    {found : Token}
    (inside : ∀ l ∈ tokens, l.token ≠ .finish) (failed : parseTokens tokens finish = .error e)
    (named : e.failure.found? = some found) : ∃ before offset after,
      tokens ++ [⟨.finish, finish⟩] = before ++ ⟨found, offset⟩ :: after ∧
      MayBegin (tokensOf before) ∧ ¬ MayBegin (tokensOf before ++ [found]) ∧
      e.PointsAt before offset := by
  obtain ⟨r, runs⟩ := Script.exists_runs_whole ⟨tokens, finish, 0⟩
  have outcome := runs.parseTokens_eq.symm.trans failed
  cases r with
  | done => cases outcome
  | failed e d taken =>
    cases outcome
    obtain ⟨before, rest, next, points, v, t, derived⟩ :=
      runs.names (Script.blames_whole _) found named
    have begins : MayBegin (tokensOf before) :=
      ⟨_, t, derived, (List.prefix_append _ _).trans (List.prefix_append _ _)⟩
    have refused {ls : List Lexeme} {t : Expr} (derived : Derives .or (tokensOf ls) t)
        (failed : parseTokens ls finish = .error e) : False := by
      rw [derived.found?_eq_none failed] at named
      cases named
    obtain ⟨left, finish', depth⟩ := d
    obtain rfl : tokens = before ++ left := rest
    obtain rfl : finish' = finish := runs.finish_eq
    cases left with
    | nil =>
      obtain rfl : found = .finish := next.symm
      refine ⟨before, finish', [], by rw [List.append_nil], begins, ?_, points⟩
      rintro ⟨w, t, derived, front⟩
      obtain same | inner := List.prefix_concat_iff.mp front
      · rw [← List.append_cancel_right same, ← List.append_nil before] at derived
        exact refused derived failed
      · exact derived.finish_notMem (inner.subset List.mem_concat_self)
    | cons l after =>
      obtain rfl : l.token = found := next
      refine ⟨before, l.offset, after ++ [⟨.finish, finish'⟩], ?_, begins, ?_, points⟩
      · rw [List.append_assoc, List.cons_append]
      rintro ⟨w, t, derived, front⟩
      obtain same | ⟨v, rfl⟩ := List.prefix_concat_iff.mp front
      · have last := (List.append_inj' same rfl).2
        exact inside l (by simp) (List.singleton_inj.mp last)
      · -- Read on from the named token with the tokens of the derivation.
        have swapped := runs.swap (v.map (⟨·, 0⟩)) before [] rfl rfl
        refine @refused (before ++ l :: v.map (⟨·, 0⟩)) t ?_ swapped.parseTokens_eq
        simpa [tokensOf, Function.comp_def] using derived

/-! ## In the text -/

/-- The token is what is read in a text at its offset, or the end of the text stands there. -/
def Lexeme.StartsIn (cs : List Char) (l : Lexeme) : Prop :=
  (l.token = .finish ∧ l.offset = cs.length) ∨ ∃ c rest size, cs.drop l.offset = c :: rest ∧
    Text.isBlank c = false ∧ readToken c rest = .ok (l.token, size)

theorem startsIn_of_lexemes {whole : List Char} {offset : Nat} {cs : List Char}
    {tokens : List Lexeme} (placed : whole.drop offset = cs)
    (lexed : lexemes offset cs = .ok tokens) : ∀ l ∈ tokens, l.StartsIn whole := by
  induction offset, cs using lexemes.induct generalizing tokens with
  | case1 offset =>
    rw [lexemes] at lexed
    cases lexed
    exact List.forall_mem_nil _
  | case2 offset c cs blank ih =>
    rw [lexemes, if_pos blank] at lexed
    refine ih ?_ lexed
    rw [← List.drop_drop, placed, List.drop_one, List.tail_cons]
  | case3 offset c cs solid failure failed =>
    rw [lexemes, if_neg solid, failed] at lexed
    cases lexed
  | case4 offset c cs solid token size read ih =>
    rw [lexemes, if_neg solid, read] at lexed
    simp only [bind_eq_ok, pure_eq_ok] at lexed
    obtain ⟨rest, lexed, rfl⟩ := lexed
    intro l member
    cases member with
    | head => exact .inr ⟨c, cs, size, placed, by simpa using solid, read⟩
    | tail _ member =>
      refine ih ?_ lexed l member
      rw [Nat.add_assoc, ← List.drop_drop, placed, ← List.drop_drop, List.drop_one, List.tail_cons]

theorem tokenize_eq_ok {text : String} {tokens : List Lexeme} : tokenize text = .ok tokens ↔
    ∃ ls, lexemes 0 text.toList = .ok ls ∧ tokens = ls ++ [⟨.finish, text.toList.length⟩] := by
  simp only [tokenize, bind_eq_ok, pure_eq_ok]

/-- An error that names a token is about the first token of the text that no expression goes on
with: an expression can begin with the tokens before it, but not with it behind them. The error is
reported at the character where this token starts, or at the end of the text if that is what was
found. Only where a quoted name is missing behind a bracket, it is reported one behind the bracket,
wherever the token is. -/
theorem parse_error_points [Regex.Engine] {text : String} {tokens : List Lexeme} {e : ParseError}
    {found : Token} (tokenized : tokenize (Text.trim text) = .ok tokens)
    (failed : Expression.parse text = .error e) (named : e.failure.found? = some found) :
    ∃ before offset after, tokens = before ++ ⟨found, offset⟩ :: after ∧
      Lexeme.StartsIn (Text.trim text).toList ⟨found, offset⟩ ∧
      MayBegin (tokensOf before) ∧ ¬ MayBegin (tokensOf before ++ [found]) ∧
      e.PointsAt before offset := by
  obtain ⟨ls, lexed, rfl⟩ := tokenize_eq_ok.mp tokenized
  have read : parseTokens ls (Text.trim text).toList.length = .error e := by
    by_cases solid : (Text.trim text).toList = []
    · unfold Expression.parse at failed
      simp only [solid, List.isEmpty_nil, if_true] at failed
      cases failed
      cases named
    rw [parse_of_lexemes lexed solid] at failed
    cases read : parseTokens ls (Text.trim text).toList.length with
    | error => rw [read] at failed; cases failed; rfl
    | ok => rw [read] at failed; cases failed
  obtain ⟨before, offset, after, split, begins, ends, points⟩ :=
    parseTokens_points (ne_finish_of_lexemes lexed) read named
  refine ⟨before, offset, after, split, ?_, begins, ends, points⟩
  have member : (⟨found, offset⟩ : Lexeme) ∈ ls ++ [⟨.finish, (Text.trim text).toList.length⟩] :=
    split ▸ List.mem_append_right _ List.mem_cons_self
  obtain inside | last := List.mem_append.mp member
  · exact startsIn_of_lexemes List.drop_zero lexed _ inside
  · cases List.mem_singleton.mp last
    exact .inl ⟨rfl, rfl⟩

/-- What refuses the first operand refuses the whole. -/
theorem Symbol.run_or_eq_error [Regex.Engine] {c : Cursor} {e : ParseError} (denied : c.peek ≠ .not)
    (negated : c.peek ≠ .minus) (failed : primary.run c = .error e) : or.run c = .error e := by
  have steps : steps.run c = .error e := by rw [run_chain .steps, failed]; rfl
  have unary : unary.run c = .error e := (run_unary_of_ne negated).trans steps
  have sum : sum.run c = .error e := by rw [run_chain .sum, unary]; rfl
  have comparison : comparison.run c = .error e := by rw [run_comparison, sum]; rfl
  have not : not.run c = .error e := (run_not_of_ne denied).trans comparison
  have and : and.run c = .error e := by rw [run_chain .and, not]; rfl
  rw [run_chain .or, and]
  rfl

/-- A closing bracket where an operand should be is reported where it stands. -/
theorem unexpected_bracket_points :
    tokenize (Text.trim "( ]") = .ok [⟨.leftParen, 0⟩, ⟨.rightBracket, 2⟩, ⟨.finish, 3⟩] ∧
    Expression.parse "( ]" = .error ⟨.unexpected .rightBracket, 2⟩ ∧
    ∃ before offset after,
      [⟨.leftParen, 0⟩, ⟨.rightBracket, 2⟩, ⟨.finish, 3⟩] =
        before ++ Lexeme.mk .rightBracket offset :: after ∧
      Lexeme.StartsIn (Text.trim "( ]").toList ⟨.rightBracket, offset⟩ ∧
      MayBegin (tokensOf before) ∧ ¬ MayBegin (tokensOf before ++ [.rightBracket]) ∧
      ParseError.PointsAt ⟨.unexpected .rightBracket, 2⟩ before offset := by
  have trimmed : Text.trim "( ]" = "( ]" := by decide +kernel
  have characters : "( ]".toList = ['(', ' ', ']'] := by decide +kernel
  have opening : Lexes 0 ['('] [⟨.leftParen, 0⟩] [' ', ']'] := .token rfl rfl
  have closing : Lexes 1 [' ', ']'] [⟨.rightBracket, 2⟩] [] :=
    @Lexes.append 1 [' '] [']'] [] [] _ (.blanks rfl) (.token rfl rfl)
  have lexed : lexemes 0 (Text.trim "( ]").toList = .ok [⟨.leftParen, 0⟩, ⟨.rightBracket, 2⟩] := by
    rw [trimmed, characters]
    exact (@Lexes.append 0 ['('] [' ', ']'] [] _ _ opening closing).lexemes_eq
  have tokenized : tokenize (Text.trim "( ]") =
      .ok [⟨.leftParen, 0⟩, ⟨.rightBracket, 2⟩, ⟨.finish, 3⟩] := by
    refine tokenize_eq_ok.mpr ⟨_, lexed, ?_⟩
    rw [trimmed, characters]
    rfl
  have refused (finish depth : Nat) : Symbol.or.run ⟨[⟨.rightBracket, 2⟩], finish, depth⟩ =
      .error ⟨.unexpected .rightBracket, 2⟩ :=
    Symbol.run_or_eq_error nofun nofun (Symbol.run_unexpected rfl nofun nofun)
  have group (finish : Nat) : Symbol.or.run ⟨[⟨.leftParen, 0⟩, ⟨.rightBracket, 2⟩], finish, 0⟩ =
      .error ⟨.unexpected .rightBracket, 2⟩ :=
    Symbol.run_or_eq_error nofun nofun (by rw [Symbol.run_group, refused]; rfl)
  have failed : Expression.parse "( ]" = .error ⟨.unexpected .rightBracket, 2⟩ := by
    rw [parse_of_lexemes lexed (by rw [trimmed, characters]; nofun), parseTokens_eq, group]
    rfl
  exact ⟨tokenized, failed, parse_error_points tokenized failed rfl⟩

/-- A name in brackets without quotes that stands behind a blank is reported where the blank is. -/
theorem unquoted_key_is_reported_beside :
    tokenize (Text.trim "[ a]") =
      .ok [⟨.leftBracket, 0⟩, ⟨.identifier "a", 2⟩, ⟨.rightBracket, 3⟩, ⟨.finish, 4⟩] ∧
    Expression.parse "[ a]" = .error ⟨.expectedQuotedKey (.identifier "a"), 1⟩ := by
  have trimmed : Text.trim "[ a]" = "[ a]" := by decide +kernel
  have characters : "[ a]".toList = ['[', ' ', 'a', ']'] := by decide +kernel
  have opening : Lexes 0 ['['] [⟨.leftBracket, 0⟩] [' ', 'a', ']'] := .token rfl rfl
  have name : Lexes 1 [' ', 'a'] [⟨.identifier "a", 2⟩] [']'] :=
    @Lexes.append 1 [' '] ['a'] [']'] [] _ (.blanks rfl) (.token rfl rfl)
  have closing : Lexes 3 [']'] [⟨.rightBracket, 3⟩] [] := .token rfl rfl
  have inner := @Lexes.append 1 [' ', 'a'] [']'] [] _ _ name closing
  have lexed : lexemes 0 (Text.trim "[ a]").toList =
      .ok [⟨.leftBracket, 0⟩, ⟨.identifier "a", 2⟩, ⟨.rightBracket, 3⟩] := by
    rw [trimmed, characters]
    exact (@Lexes.append 0 ['['] [' ', 'a', ']'] [] _ _ opening inner).lexemes_eq
  have refused (finish : Nat) : Symbol.or.run
      ⟨[⟨.leftBracket, 0⟩, ⟨.identifier "a", 2⟩, ⟨.rightBracket, 3⟩], finish, 0⟩ =
      .error ⟨.expectedQuotedKey (.identifier "a"), 1⟩ :=
    Symbol.run_or_eq_error nofun nofun (Symbol.run_key _ _ _ _)
  constructor
  · refine tokenize_eq_ok.mpr ⟨_, lexed, ?_⟩
    rw [trimmed, characters]
    rfl
  · rw [parse_of_lexemes lexed (by rw [trimmed, characters]; nofun), parseTokens_eq, refused]
    rfl

end Remap.Expression
