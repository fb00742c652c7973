import Mathlib.Data.List.Basic
import Mathlib.Order.Bounds.Defs
import Remap.Proofs.Expression.Completeness
import Remap.Proofs.Expression.Height
import Remap.Proofs.Expression.Property
import Remap.Regex.Reader

/-!
# Expressions as high as can be

An operand with a chain of steps behind it, that with a chain of sums, that in a comparison, that
with a chain of `&&`, and that with a chain of `||`: each chain has as many links as levels are
left, since the one before it has closed its own. In parentheses this is an operand again, for one
level less. What is built like this from a name is as high as `Reads.light` allows.

Main statements: the greatest height of an expression that is read, and where the levels bound it.
-/

namespace Remap.Expression

/-! ## Words with blanks between them -/

/-- A token and how it is written. -/
structure Word where
  token : Token
  chars : List Char
  present : chars ≠ []
  solid : chars.any Text.isBlank = false
  /-- It is read back where a word ends. -/
  reads : ∀ offset rest, EndsWord rest → Lexes offset chars [⟨token, offset⟩] rest

namespace Word

/-- The tokens of some words. -/
def tokens (ws : List Word) : List Token := ws.map (·.token)

theorem tokens_append (ws us : List Word) : tokens (ws ++ us) = tokens ws ++ tokens us :=
  List.map_append

/-- Some words with a blank between each of them and the next one. -/
def spaced : List Word → List Char
  | [] => []
  | [w] => w.chars
  | w :: next :: more => w.chars ++ ' ' :: spaced (next :: more)

/-- Words are read as their tokens, since a blank ends each of them. -/
theorem lexes_spaced (ws : List Word) (offset : Nat) :
    ∃ ls, Lexes offset (spaced ws) ls [] ∧ tokensOf ls = tokens ws := by
  induction ws using spaced.induct generalizing offset with
  | case1 => exact ⟨[], .nil, rfl⟩
  | case2 w => exact ⟨_, w.reads offset [] .nil, rfl⟩
  | case3 w next more ih =>
    obtain ⟨ls, behind, same⟩ := ih (offset + w.chars.length + 1)
    have ends : EndsWord (([' '] ++ spaced (next :: more)) ++ []) := by
      rintro c ⟨⟩
      decide
    have blank : Lexes (offset + w.chars.length) [' '] [] (spaced (next :: more) ++ []) :=
      .blanks rfl
    have word := w.reads offset _ ends
    exact ⟨_, word.append (blank.append behind), congrArg (w.token :: ·) same⟩

theorem isBlank_eq_false (w : Word) {c : Char} (member : c ∈ w.chars) : Text.isBlank c = false :=
  Bool.eq_false_iff.mpr (List.any_eq_false.mp w.solid c member)

theorem solid_spaced (ws : List Word) (nonempty : ws ≠ []) :
    spaced ws ≠ [] ∧ (∀ c ∈ (spaced ws).head?, Text.isBlank c = false) ∧
      ∀ c ∈ (spaced ws).getLast?, Text.isBlank c = false := by
  induction ws using spaced.induct with
  | case1 => exact absurd rfl nonempty
  | case2 w =>
    refine ⟨w.present, ?_, ?_⟩
    · intro c first
      exact w.isBlank_eq_false (List.mem_of_mem_head? first)
    · intro c last
      exact w.isBlank_eq_false (List.mem_of_mem_getLast? last)
  | case3 w next more ih =>
    obtain ⟨present, -, last⟩ := ih (List.cons_ne_nil _ _)
    refine ⟨List.append_ne_nil_of_left_ne_nil w.present _, ?_, ?_⟩
    · intro c first
      rw [spaced, List.head?_append_of_ne_nil _ w.present] at first
      exact w.isBlank_eq_false (List.mem_of_mem_head? first)
    · rw [spaced, List.append_cons, List.getLast?_append_of_ne_nil _ present]
      exact last

/-- Words with blanks between them are read by their tokens. -/
theorem exists_parse_spaced [Regex.Engine] (ws : List Word) (nonempty : ws ≠ []) :
    ∃ ls, tokensOf ls = tokens ws ∧
      Expression.parse (String.ofList (spaced ws)) =
        (parseTokens ls (spaced ws).length).map (⟨String.ofList (spaced ws), ·⟩) := by
  obtain ⟨present, first, last⟩ := solid_spaced ws nonempty
  have trimmed : Text.trim (String.ofList (spaced ws)) = String.ofList (spaced ws) := by
    rw [Text.trim, String.toList_ofList, Text.trimChars_eq_self present first last]
  obtain ⟨ls, lexes, same⟩ := lexes_spaced ws 0
  refine ⟨ls, same, ?_⟩
  have lexed : lexemes 0 (Text.trim (String.ofList (spaced ws))).toList = .ok ls := by
    rw [trimmed, String.toList_ofList]
    exact lexes.lexemes_eq
  have parsed := parse_of_lexemes lexed (by rwa [trimmed, String.toList_ofList])
  rwa [trimmed, String.toList_ofList] at parsed

/-- A sign of some characters, which nothing behind it goes on with. -/
def sign (token : Token) (c : Char) (cs : List Char)
    (solid : (c :: cs).any Text.isBlank = false)
    (read : ∀ rest, readToken c (cs ++ rest) = .ok (token, cs.length)) : Word where
  token
  chars := c :: cs
  present := List.cons_ne_nil c cs
  solid
  reads _ rest _ := .token (Bool.or_eq_false_iff.mp solid).1 (read rest)

def dot : Word := sign .dot '.' [] rfl fun _ => rfl
def plus : Word := sign .plus '+' [] rfl fun _ => rfl
def equal : Word := sign .equal '=' ['='] rfl fun _ => rfl
def and : Word := sign .and '&' ['&'] rfl fun _ => rfl
def or : Word := sign .or '|' ['|'] rfl fun _ => rfl
def leftParen : Word := sign .leftParen '(' [] rfl fun _ => rfl
def rightParen : Word := sign .rightParen ')' [] rfl fun _ => rfl

/-- The name of a property. -/
def name : Word where
  token := .identifier "a"
  chars := ['a']
  present := List.cons_ne_nil _ _
  solid := rfl
  reads offset rest ends := @Lexes.word [] rest offset 'a' rfl rfl ends

end Word

/-! ## Chains of links -/

/-- The property that is named. -/
abbrev nameExpr : Expr := .property "a"

namespace Reads

variable {σ τ : Symbol} {c d : Cursor} {e : Expr}

variable [Regex.Engine]

/-- A chain of one operand is read where the operand is, if nothing goes on with it. -/
theorem single (chains : Chains σ τ) (operand : Reads (.whole τ) c e d)
    (ends : σ.continues d.peek = false) : Reads (.whole σ) c e d := by
  have closed : Reads (.whole σ) c e (d.atDepth c.depth) := .chain chains operand (.alone ends)
  rw [← operand.depth_eq] at closed
  exact closed

/-- A sum stands alone before what holds looser than a comparison. -/
theorem uncompared_of_level (operand : Reads (.whole .sum) c e d) (looser : 3 < d.peek.level) :
    Reads (.whole .comparison) c e d := by
  refine .uncompared operand ?_ ?_
  · cases compares : comparison? d.peek with
    | none => rfl
    | some operator =>
      rw [(comparison?_eq_some_iff.mp compares).level_eq] at looser
      exact absurd looser (Nat.lt_irrefl 3)
  · intro isMatch
    rw [isMatch] at looser
    exact absurd looser (Nat.lt_irrefl 3)

/-- A name is what any symbol reads, if nothing goes on with it. -/
theorem name {offset finish depth : Nat} {rest : List Lexeme}
    (looser : σ.level < (Cursor.peek ⟨rest, finish, depth⟩).level) :
    Reads (.whole σ) ⟨⟨.identifier "a", offset⟩ :: rest, finish, depth⟩ nameExpr
      ⟨rest, finish, depth⟩ := by
  have ends (τ : Symbol) (le : τ.level ≤ σ.level) :
      τ.continues (Cursor.peek ⟨rest, finish, depth⟩) = false :=
    Symbol.continues_eq_false (Nat.lt_of_le_of_lt le looser)
  have primary : Reads (.whole .primary) ⟨⟨.identifier "a", offset⟩ :: rest, finish, depth⟩
      nameExpr ⟨rest, finish, depth⟩ := .atom rfl
  have steps (le : 1 ≤ σ.level) := single .steps primary (ends .steps le)
  have unary (le : 1 ≤ σ.level) := positive Token.noConfusion (steps le)
  have sum (le : 2 ≤ σ.level) := single .sum (unary (Nat.le_of_succ_le le)) (ends .sum le)
  have comparison (le : 3 ≤ σ.level) :=
    uncompared_of_level (sum (Nat.le_of_succ_le le)) (Nat.lt_of_le_of_lt le looser)
  have not (le : 3 ≤ σ.level) := affirmed Token.noConfusion (comparison le)
  have and (le : 4 ≤ σ.level) := single .and (not (Nat.le_of_succ_le le)) (ends .and le)
  have or (le : 5 ≤ σ.level) := single .or (and (Nat.le_of_succ_le le)) (ends .or le)
  cases σ with
  | primary => exact primary
  | steps => exact steps (Nat.le_refl _)
  | unary => exact unary (Nat.le_refl _)
  | sum => exact sum (Nat.le_refl _)
  | comparison => exact comparison (Nat.le_refl _)
  | not => exact not (Nat.le_refl _)
  | and => exact and (Nat.le_refl _)
  | or => exact or (Nat.le_refl _)

end Reads

/-- A sign that goes on with a chain and takes a name behind it, and what it makes of the chain. -/
structure Links [Regex.Engine] (σ : Symbol) (token : Token) (link : Expr → Expr) : Prop where
  level_eq : token.level = σ.level
  reads : ∀ {left e offset offset' rest finish depth d}, depth < maxNesting →
    σ.level ≤ (Cursor.peek ⟨rest, finish, depth + 1⟩).level →
    Reads (.links σ (link left)) ⟨rest, finish, depth + 1⟩ e d →
    Reads (.links σ left)
      ⟨⟨token, offset⟩ :: ⟨.identifier "a", offset'⟩ :: rest, finish, depth⟩ e d

namespace Links

variable [Regex.Engine]

theorem member : Links .steps .dot (.member · "a") where
  level_eq := rfl
  reads room _ more := .member room more

theorem join {σ τ : Symbol} {token : Token} {join : Expr → Expr → Expr} (chains : Chains σ τ)
    (joins : Joins σ token join) : Links σ token (join · nameExpr) where
  level_eq := joins.level_eq
  reads room looser more :=
    .join chains joins room (.name (Nat.lt_of_lt_of_le chains.level_lt looser)) more

end Links

/-- So many links with the same sign. -/
def repeated (n : Nat) (w : Word) : List Word := (List.replicate n [w, .name]).flatten

/-- Links begin with their sign. -/
theorem peek_before_repeated {n : Nat} {w : Word} {ls : List Lexeme} (c : Cursor)
    (same : tokensOf ls = Word.tokens (repeated n w)) :
    (c.before ls).peek = w.token ∨ (c.before ls).peek = c.peek := by
  cases n with
  | zero =>
    obtain rfl := List.map_eq_nil_iff.mp same
    exact .inr rfl
  | succ n =>
    obtain ⟨_, _, rfl, first, -⟩ := List.map_eq_cons_iff.mp same
    exact .inl first

/-- So many links behind an expression are read, if there are levels for them. -/
theorem Links.reads_repeated [Regex.Engine] {σ : Symbol} {w : Word} {link : Expr → Expr}
    (links : Links σ w.token link) (n : Nat) (left : Expr) (ls : List Lexeme) (c : Cursor)
    (same : tokensOf ls = Word.tokens (repeated n w)) (room : c.depth + n ≤ maxNesting)
    (looser : σ.level < c.peek.level) :
    Reads (.links σ left) (c.before ls) (link^[n] left) (c.atDepth (c.depth + n)) := by
  induction n generalizing left ls c with
  | zero =>
    obtain rfl := List.map_eq_nil_iff.mp same
    exact .alone (Symbol.continues_eq_false looser)
  | succ n ih =>
    obtain ⟨⟨_, offset⟩, _, rfl, rfl, second⟩ := List.map_eq_cons_iff.mp same
    obtain ⟨⟨_, offset'⟩, ls, rfl, rfl, rest⟩ := List.map_eq_cons_iff.mp second
    have next : σ.level ≤ ((c.atDepth (c.depth + 1)).before ls).peek.level := by
      rcases peek_before_repeated (c.atDepth (c.depth + 1)) rest with again | ended
      · rw [again, links.level_eq]
      · rw [ended]
        exact Nat.le_of_lt looser
    have levels : c.depth + 1 + n = c.depth + (n + 1) := Nat.add_right_comm _ _ _
    have more := ih (link left) ls (c.atDepth (c.depth + 1)) rest (levels ▸ room) looser
    have after : (c.atDepth (c.depth + 1)).atDepth ((c.atDepth (c.depth + 1)).depth + n) =
        c.atDepth (c.depth + (n + 1)) := congrArg c.atDepth levels
    rw [after] at more
    exact links.reads (by omega) next more

/-! ## Towers -/

/-- With so many levels open, the symbol reads the words as the tree. -/
def Builds [Regex.Engine] (σ : Symbol) (ws : List Word) (depth : Nat) (e : Expr) : Prop :=
  ∀ (ls : List Lexeme) (c : Cursor), tokensOf ls = Word.tokens ws → c.depth = depth →
    σ.level < c.peek.level → Reads (.whole σ) (c.before ls) e c

/-- A name or a parenthesis stands first. -/
def Starts (ws : List Word) : Prop := ∃ w more, ws = w :: more ∧ Opens w.token

theorem Starts.append {ws : List Word} (starts : Starts ws) (more : List Word) :
    Starts (ws ++ more) := by
  obtain ⟨w, ws, rfl, opens⟩ := starts
  exact ⟨w, ws ++ more, rfl, opens⟩

/-- No sign stands in front. -/
theorem Starts.peek_before {ws : List Word} (starts : Starts ws) {ls : List Lexeme}
    (same : tokensOf ls = Word.tokens ws) (c : Cursor) :
    (c.before ls).peek ≠ .minus ∧ (c.before ls).peek ≠ .not := by
  obtain ⟨w, more, rfl, opens⟩ := starts
  obtain ⟨l, ls, rfl, first, -⟩ := List.map_eq_cons_iff.mp same
  have next : (c.before (l :: ls)).peek = w.token := first
  rw [next]
  constructor
  · intro minus
    rw [minus] at opens
    cases opens
  · intro not
    rw [not] at opens
    cases opens

namespace Builds

variable {σ τ : Symbol} {ws : List Word} {depth : Nat} {e : Expr}

variable [Regex.Engine]

theorem name : Builds .primary [.name] depth nameExpr := by
  intro ls c same _ looser
  obtain ⟨⟨_, offset⟩, _, rfl, rfl, rest⟩ := List.map_eq_cons_iff.mp same
  obtain rfl := List.map_eq_nil_iff.mp rest
  exact .name looser

/-- A chain has as many links as there are levels left, however many its first operand has had. -/
theorem chain {w : Word} {link : Expr → Expr} (chains : Chains σ τ)
    (links : Links σ w.token link) {n : Nat} (room : depth + n ≤ maxNesting)
    (first : Builds τ ws depth e) : Builds σ (ws ++ repeated n w) depth (link^[n] e) := by
  rintro ls c same rfl looser
  rw [Word.tokens_append] at same
  obtain ⟨before, after, rfl, operand, behind⟩ := List.map_eq_append_iff.mp same
  have tighter : τ.level < (c.before after).peek.level := by
    rcases peek_before_repeated c behind with next | ended
    · rw [next, links.level_eq]
      exact chains.level_lt
    · rw [ended]
      exact Nat.lt_trans chains.level_lt looser
  have left := first before (c.before after) operand rfl tighter
  have more := links.reads_repeated n e after c behind room looser
  have closed := Reads.chain chains left more
  rw [c.before_append]
  exact closed

theorem positive (starts : Starts ws) (inner : Builds .steps ws depth e) :
    Builds .unary ws depth e := by
  intro ls c same level looser
  exact .positive (starts.peek_before same c).1 (inner ls c same level looser)

theorem affirmed (starts : Starts ws) (inner : Builds .comparison ws depth e) :
    Builds .not ws depth e := by
  intro ls c same level looser
  exact .affirmed (starts.peek_before same c).2 (inner ls c same level looser)

theorem compared (first : Builds .sum ws depth e) :
    Builds .comparison (ws ++ [.equal, .name]) depth (.binary .equal e nameExpr) := by
  rintro ls c same rfl looser
  rw [Word.tokens_append] at same
  obtain ⟨before, offset, after, rfl, operand, behind⟩ := exists_of_tokensOf_eq same
  obtain ⟨⟨_, offset'⟩, _, rfl, rfl, rest⟩ := List.map_eq_cons_iff.mp behind
  obtain rfl := List.map_eq_nil_iff.mp rest
  have left := first before (c.before [⟨.equal, offset⟩, ⟨.identifier "a", offset'⟩]) operand rfl
    (Nat.lt_succ_self 2)
  have right : Reads (.whole .sum) (c.before [⟨.identifier "a", offset'⟩]) nameExpr c :=
    .name (Nat.lt_of_succ_lt looser)
  rw [c.before_append]
  exact .compared left rfl right

/-- Parentheses take one level. -/
theorem group (room : depth < maxNesting) (inner : Builds .or ws (depth + 1) e) :
    Builds .primary (.leftParen :: (ws ++ [.rightParen])) depth e := by
  rintro ls c same rfl looser
  obtain ⟨⟨_, offset⟩, _, rfl, rfl, behind⟩ := List.map_eq_cons_iff.mp same
  replace behind : tokensOf _ = Word.tokens (ws ++ [.rightParen]) := behind
  rw [Word.tokens_append] at behind
  obtain ⟨between, offset', after, rfl, whole, rest⟩ := exists_of_tokensOf_eq behind
  obtain rfl := List.map_eq_nil_iff.mp rest
  have reads := inner between ⟨⟨.rightParen, offset'⟩ :: c.rest, c.finish, c.depth + 1⟩ whole rfl
    (Nat.lt_succ_self 5)
  have placed : c.before (⟨.leftParen, offset⟩ :: (between ++ [⟨.rightParen, offset'⟩])) =
      ⟨⟨.leftParen, offset⟩ :: (between ++ ⟨.rightParen, offset'⟩ :: c.rest), c.finish,
        c.depth⟩ := by
    rw [Cursor.before, List.cons_append, ← List.append_cons]
  have grouped : Reads (.whole .primary)
      (c.before (⟨.leftParen, offset⟩ :: (between ++ [⟨.rightParen, offset'⟩]))) e c := by
    rw [placed]
    exact .group room reads rfl
  exact grouped

/-- Words that build a tree at the outermost level are read as it. -/
theorem parse_eq (starts : Starts ws) (builds : Builds .or ws 0 e) :
    Expression.parse (String.ofList (Word.spaced ws)) =
      .ok ⟨String.ofList (Word.spaced ws), e⟩ := by
  have nonempty : ws ≠ [] := by
    obtain ⟨w, more, rfl, -⟩ := starts
    exact List.cons_ne_nil w more
  obtain ⟨ls, same, parsed⟩ := Word.exists_parse_spaced ws nonempty
  have reads := builds ls ⟨[], (Word.spaced ws).length, 0⟩ same rfl (Nat.lt_succ_self 5)
  have read : Symbol.or.run _ = _ := reads.run_eq
  rw [Cursor.before, List.append_nil] at read
  rw [parsed, parseTokens_eq, read]
  rfl

end Builds

/-- An operand with as many links of each of the four chains, and a comparison. -/
def chained (n : Nat) (ws : List Word) : List Word :=
  ws ++ repeated n .dot ++ repeated n .plus ++ [.equal, .name] ++ repeated n .and ++ repeated n .or

/-- The tree of such an operand. -/
def Expr.chained (n : Nat) (e : Expr) : Expr :=
  (Expr.or · nameExpr)^[n] <| (Expr.and · nameExpr)^[n] <| .binary .equal
    ((Expr.binary .add · nameExpr)^[n] <| (Expr.member · "a")^[n] e) nameExpr

theorem Starts.chained {ws : List Word} (starts : Starts ws) (n : Nat) : Starts (chained n ws) :=
  ((((starts.append _).append _).append _).append _).append _

theorem Builds.chained [Regex.Engine] {ws : List Word} {n depth : Nat} {e : Expr}
    (starts : Starts ws) (room : depth + n ≤ maxNesting) (operand : Builds .primary ws depth e) :
    Builds .or (chained n ws) depth (e.chained n) := by
  have steps := operand.chain (w := .dot) .steps .member room
  have sum := (steps.positive (starts.append _)).chain (w := .plus) .sum (.join .sum .plus) room
  have comparison := sum.compared.affirmed (((starts.append _).append _).append _)
  have and := comparison.chain (w := .and) .and (.join .and .and) room
  exact and.chain (w := .or) .or (.join .or .or) room

/-! ### Heights -/

/-- A name is no higher than anything beside it. -/
theorem max_height_name (e : Expr) : max e.height nameExpr.height = e.height := by
  rw [e.height_eq]
  exact Nat.max_eq_left (Nat.le_add_left _ _)

/-- Links of one node each. -/
theorem height_iterate {link : Expr → Expr} (adds : ∀ e, (link e).height = e.height + 1) (n : Nat)
    (e : Expr) : (link^[n] e).height = e.height + n := by
  induction n generalizing e with
  | zero => rfl
  | succ n ih =>
    rw [Function.iterate_succ_apply, ih, adds, Nat.add_assoc, Nat.add_comm 1]

theorem height_chained (n : Nat) (e : Expr) : (e.chained n).height = e.height + (4 * n + 1) := by
  have steps (e : Expr) : (Expr.member e "a").height = e.height + 1 := rfl
  have joined {σ : Symbol} {token : Token} {join : Expr → Expr → Expr}
      (joins : Joins σ token join) (e : Expr) : (join e nameExpr).height = e.height + 1 := by
    cases joins <;> rw [Expr.height, max_height_name]
  have compared (e : Expr) : (Expr.binary .equal e nameExpr).height = e.height + 1 := by
    rw [Expr.height, max_height_name]
  rw [Expr.chained, height_iterate (joined .or), height_iterate (joined .and), compared,
    height_iterate (joined .plus), height_iterate steps]
  omega

/-- The highest operand with so many levels left. -/
def tower : Nat → List Word
  | 0 => [.name]
  | room + 1 => .leftParen :: (chained room (tower room) ++ [.rightParen])

/-- The tree of the highest operand. -/
def Expr.tower : Nat → Expr
  | 0 => nameExpr
  | room + 1 => (tower room).chained room

theorem starts_tower (room : Nat) : Starts (tower room) := by
  cases room with
  | zero => exact ⟨_, _, rfl, .name "a"⟩
  | succ room => exact ⟨_, _, rfl, .paren⟩

theorem builds_tower [Regex.Engine] {room depth : Nat} (all : depth + room = maxNesting) :
    Builds .primary (tower room) depth (.tower room) := by
  induction room generalizing depth with
  | zero => exact .name
  | succ room ih =>
    have inner : depth + 1 + room = maxNesting := by omega
    exact ((ih inner).chained (starts_tower room) (Nat.le_of_eq inner)).group (by omega)

theorem height_tower (room : Nat) :
    (Expr.tower room).height = heaviestOperand ⟨1, 1⟩ room + 1 := by
  induction room with
  | zero => rfl
  | succ room ih =>
    have added : heaviestOperand ⟨1, 1⟩ (room + 1) =
        heaviestOperand ⟨1, 1⟩ room + (4 * (1 * room) + 1) := rfl
    rw [Expr.tower, height_chained, ih, added]
    omega

theorem height_chained_tower (room : Nat) :
    ((Expr.tower room).chained room).height = 2 * room ^ 2 + 3 * room + 2 := by
  have height := height_tower (room + 1)
  rw [Symbol.heaviestOperand_succ, Symbol.heaviest_nodes] at height
  exact height

theorem exists_parse_tower [Regex.Engine] {room : Nat} (all : room = maxNesting) :
    ∃ text e, Expression.parse text = .ok e ∧ e.tree.height = 2 * room ^ 2 + 3 * room + 2 := by
  have levels : 0 + room = maxNesting := (Nat.zero_add room).trans all
  have whole := (builds_tower levels).chained (starts_tower room) (Nat.le_of_eq levels)
  have parsed := whole.parse_eq ((starts_tower room).chained room)
  exact ⟨_, _, parsed, height_chained_tower room⟩

/-- The bound on the height of what is read is attained. -/
theorem isGreatest_height [Regex.Engine] :
    IsGreatest {height | ∃ text e, Expression.parse text = .ok e ∧ e.tree.height = height}
      (2 * maxNesting ^ 2 + 3 * maxNesting + 2) := by
  constructor
  · exact exists_parse_tower rfl
  · rintro height ⟨text, e, parsed, rfl⟩
    exact height_le_of_parse parsed

/-- The name with so many links of each chain, written out. -/
def chainedText (n : Nat) : String := String.ofList (Word.spaced (chained n [.name]))

theorem parse_chainedText [Regex.Engine] {n : Nat} (room : n ≤ maxNesting) :
    Expression.parse (chainedText n) = .ok ⟨chainedText n, nameExpr.chained n⟩ := by
  have starts : Starts [.name] := ⟨.name, [], rfl, .name "a"⟩
  have levels : 0 + n ≤ maxNesting := (Nat.zero_add n).symm ▸ room
  exact (Builds.name.chained starts levels).parse_eq (starts.chained n)

/-- Where no path of a tree has more links than there can be levels, the height is bounded by the
levels and the comparisons that they leave room for. Trees with more links are read as well, since
a chain forgets the levels of the one before it; then the bound grows with the square of the
levels. -/
theorem height_of_parse [Regex.Engine] (text : String) (e : Expression)
    (parsed : Expression.parse text = .ok e) :
    (e.tree.links ≤ maxNesting → e.tree.height ≤ 2 * maxNesting + 2) ∧
      e.tree.height ≤ 2 * maxNesting ^ 2 + 3 * maxNesting + 2 := by
  refine ⟨?_, height_le_of_parse parsed⟩
  intro few
  have high := e.tree.height_le
  have comparisons := comparisons_le_of_parse parsed
  omega

/-- One link of each chain is counted with the others: `a . a + a == a && a || a`. -/
theorem height_of_one_link :
    Expression.parse (chainedText 1) = .ok ⟨chainedText 1, nameExpr.chained 1⟩ ∧
      (nameExpr.chained 1).height ≤ 2 * maxNesting + 2 := by
  have parsed := parse_chainedText (n := 1) (by decide)
  exact ⟨parsed, (height_of_parse _ _ parsed).1 (by decide)⟩

/-- Four chains of 129 links each, of which none has more links than there are levels, make a tree
that is higher than all levels twice over. -/
theorem four_chains_are_high :
    Expression.parse (chainedText 129) = .ok ⟨chainedText 129, nameExpr.chained 129⟩ ∧
      2 * maxNesting + 2 < (nameExpr.chained 129).height := by
  refine ⟨parse_chainedText (by decide), ?_⟩
  rw [height_chained]
  decide

end Remap.Expression
