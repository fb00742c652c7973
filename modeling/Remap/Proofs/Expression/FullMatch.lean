import Remap.Expression.Evaluate
import Remap.Proofs.Expression.Completeness
import Remap.Proofs.Regex.Standard

/-!
# Full matches

A match puts its pattern into a group between the start and the end of the text. By the rules of
the engine (`Regex.Documented`) that group ends at its own parenthesis, and then the match takes the
whole text, or it ends at a parenthesis of the pattern (`Regex.ClosesEarly`). A pattern of the
second kind is none by itself; it is read in two halves, each with one of the anchors.
-/

namespace Remap.Regex

open Expression (wholeMatch)

theorem wholeMatch_eq_append (p : String) : wholeMatch p = "^(?:" ++ (p ++ ")$") :=
  String.append_assoc

theorem wholeMatch_eq_row (p : String) : wholeMatch p = "^" ++ grouped p ++ "$" := by
  rw [← String.toList_inj]
  simp [wholeMatch, grouped]

theorem wholeMatch_injective : Function.Injective wholeMatch := by
  intro p q same
  have texts := congrArg String.toList same
  simp only [wholeMatch, String.toList_append] at texts
  exact String.toList_inj.mp (List.append_cancel_left (List.append_cancel_right texts))

variable [Engine]

/-- A text that closes a group that it does not open: what stands before one of its closing
parentheses makes up a group. -/
def ClosesEarly (p : String) : Prop := ∃ q t : String, p = q ++ ")" ++ t ∧ FitsGroup q

/-- A text is by itself a pattern that matches the whole of another text. -/
def FullMatch (Spans : (p s : String) → (i j : Nat) → Prop) (p s : String) : Prop :=
  IsPattern p ∧ Spans p s 0 s.length

theorem not_closesEarly_of_notMem {p : String} (noClose : ')' ∉ p.toList) : ¬ClosesEarly p := by
  rintro ⟨q, t, rfl, -⟩
  simp at noClose

theorem isPattern_of_read {p : String} {r : Regex} (read : Engine.read p = .ok r) :
    IsPattern p := by
  intro message refused
  cases read.symm.trans refused

theorem exists_of_not_isPattern {p : String} (bad : ¬IsPattern p) :
    ∃ message, Engine.read p = .error (.invalid message) := by
  simpa [IsPattern] using bad

namespace Documented

variable {Spans : (p s : String) → (i j : Nat) → Prop} {p : String}

/-- A text that is a pattern between the anchors makes up the group there, or it closes that group
early. -/
theorem fitsGroup_or_closesEarly (documented : Documented Spans)
    (whole : IsPattern (wholeMatch p)) : FitsGroup p ∨ ClosesEarly p := by
  rw [wholeMatch_eq_append] at whole
  obtain ⟨q, u, text, fits⟩ := documented.closed whole
  have texts : q.toList ++ ')' :: u.toList = p.toList ++ ')' :: ['$'] := by
    simpa using (congrArg String.toList text).symm
  rcases eq_or_exists_of_append (by decide) texts with same | ⟨more, early⟩
  · obtain rfl := String.toList_inj.mp same
    exact .inl fits
  · refine .inr ⟨q, String.ofList more, ?_, fits⟩
    rw [← String.toList_inj]
    simp [early]

/-- A text that closes a group that it does not open is no pattern. -/
theorem not_isPattern_of_closesEarly (documented : Documented Spans) (early : ClosesEarly p) :
    ¬IsPattern p := by
  obtain ⟨q, t, rfl, fits⟩ := early
  exact documented.unopened fits

/-- A pattern between the anchors is found where it matches the whole by itself. -/
theorem isMatch_iff_fullMatch (documented : Documented Spans) (opens : ¬ClosesEarly p) {r : Regex}
    (read : Engine.read (wholeMatch p) = .ok r) (s : String) :
    r.isMatch s = true ↔ FullMatch Spans p s := by
  have whole := isPattern_of_read read
  have fits := (documented.fitsGroup_or_closesEarly whole).resolve_right opens
  rw [documented.found read, wholeMatch_eq_row]
  rw [wholeMatch_eq_row] at whole
  simp only [documented.row fits whole, documented.caret, documented.dollar,
    documented.group fits]
  constructor
  · rintro ⟨_, _, _, _, ⟨rfl, rfl⟩, inside, rfl, rfl⟩
    exact ⟨fits.alone, inside⟩
  · rintro ⟨-, inside⟩
    exact ⟨0, s.length, 0, s.length, ⟨rfl, rfl⟩, inside, rfl, rfl⟩

/-- What is no pattern by itself is none between the anchors. -/
theorem exists_read_wholeMatch_eq (documented : Documented Spans) (opens : ¬ClosesEarly p)
    (bad : ¬IsPattern p) : ∃ message, Engine.read (wholeMatch p) = .error (.invalid message) :=
  exists_of_not_isPattern fun whole =>
    bad ((documented.fitsGroup_or_closesEarly whole).resolve_right opens).alone

end Documented

end Remap.Regex

namespace Remap.Expression

open Regex (Documented ClosesEarly FullMatch IsPattern)

namespace Expr

/-- The patterns that are read in an expression. -/
def regexes : Expr → List Regex
  | .literal _ => []
  | .property _ => []
  | .variable _ => []
  | .member target _ => target.regexes
  | .index target position => target.regexes ++ position.regexes
  | .not operand => operand.regexes
  | .negate operand => operand.regexes
  | .or left right => left.regexes ++ right.regexes
  | .and left right => left.regexes ++ right.regexes
  | .binary _ left right => left.regexes ++ right.regexes
  | .matchesRegex subject regex => subject.regexes ++ [regex]
  | .matchesDynamic subject pattern => subject.regexes ++ pattern.regexes

/-- The text that an expression is, if it is one. -/
def text? : Expr → Option String
  | .literal (.string s) => some s
  | _ => none

/-- The texts that are written as the pattern of a match in an expression. -/
def patternTexts : Expr → List String
  | .literal _ => []
  | .property _ => []
  | .variable _ => []
  | .member target _ => target.patternTexts
  | .index target position => target.patternTexts ++ position.patternTexts
  | .not operand => operand.patternTexts
  | .negate operand => operand.patternTexts
  | .or left right => left.patternTexts ++ right.patternTexts
  | .and left right => left.patternTexts ++ right.patternTexts
  | .binary _ left right => left.patternTexts ++ right.patternTexts
  | .matchesRegex subject _ => subject.patternTexts
  | .matchesDynamic subject pattern =>
    subject.patternTexts ++ (pattern.patternTexts ++ pattern.text?.toList)

/-- Reading patterns keeps what is a text. -/
theorem text?_of_withRegexes [Regex.Engine] {t e : Expr} (read : t.withRegexes = .ok e) :
    e.text? = t.text? := by
  cases written : e.text? with
  | some s =>
    obtain rfl : e = .literal (.string s) := by
      unfold text? at written
      split at written
      · cases written
        rfl
      · cases written
    rw [eq_of_withRegexes_literal read]
    rfl
  | none =>
    cases t with
    | literal =>
      cases read
      exact written.symm
    | _ => rfl

end Expr

theorem Negates.regexes_eq {operand e : Expr} (negates : Negates operand e) :
    e.regexes = operand.regexes := by
  cases negates <;> rfl

/-- The grammar reads no patterns. -/
theorem Derives.regexes_eq_nil {σ : Symbol} {w : List Token} {t : Expr} (derives : Derives σ w t) :
    t.regexes = [] := by
  induction derives with
  | operand _ _ ih | denial _ ih | affirmed _ ih | uncompared _ ih | positive _ ih | member _ ih
  | group _ ih => exact ih
  | join _ joins _ _ ihLeft ihRight =>
    cases joins <;> simp [Expr.regexes, ihLeft, ihRight]
  | compared _ _ _ ihLeft ihRight | matched _ _ ihLeft ihRight | index _ _ ihLeft ihRight =>
    simp [Expr.regexes, ihLeft, ihRight]
  | negation _ negates ih => rw [negates.regexes_eq, ih]
  | atom single => cases single <;> rfl
  | key => rfl

section

variable [Regex.Engine]

/-- Patterns, and the texts that they were read from between the anchors. -/
structure ReadsWhole (texts : List String) (regexes : List Regex) : Prop where
  regex : ∀ r ∈ regexes, ∃ p ∈ texts, Regex.Engine.read (wholeMatch p) = .ok r
  text : ∀ p ∈ texts, ∃ r ∈ regexes, Regex.Engine.read (wholeMatch p) = .ok r

namespace ReadsWhole

theorem nil : ReadsWhole [] [] := ⟨nofun, nofun⟩

theorem singleton {p : String} {r : Regex} (read : Regex.Engine.read (wholeMatch p) = .ok r) :
    ReadsWhole [p] [r] := ⟨by simp [read], by simp [read]⟩

theorem append {ps qs : List String} {rs ss : List Regex} (left : ReadsWhole ps rs)
    (right : ReadsWhole qs ss) : ReadsWhole (ps ++ qs) (rs ++ ss) where
  regex r member := by
    rcases List.mem_append.mp member with inside | inside
    · exact (left.regex r inside).imp fun p => .imp_left (List.mem_append_left qs)
    · exact (right.regex r inside).imp fun p => .imp_left (List.mem_append_right ps)
  text p member := by
    rcases List.mem_append.mp member with inside | inside
    · exact (left.text p inside).imp fun r => .imp_left (List.mem_append_left ss)
    · exact (right.text p inside).imp fun r => .imp_left (List.mem_append_right rs)

/-- Without patterns there are no texts. -/
theorem eq_nil {texts : List String} (reads : ReadsWhole texts []) : texts = [] := by
  rw [List.eq_nil_iff_forall_not_mem]
  intro p member
  obtain ⟨_, none, _⟩ := reads.text p member
  cases none

end ReadsWhole

namespace Expr

/-- The patterns of a tree whose literal patterns are read are those of the texts written there. -/
theorem readsWhole_of_withRegexes {t e : Expr} (plain : t.regexes = [])
    (read : t.withRegexes = .ok e) : ReadsWhole t.patternTexts e.regexes := by
  induction t generalizing e with
  | literal | property | «variable» =>
    cases read
    exact .nil
  | member _ _ ih | not _ ih | negate _ ih =>
    simp only [withRegexes, bind_eq_ok, pure_eq_ok] at read
    obtain ⟨a, inner, rfl⟩ := read
    exact @ih a plain inner
  | index _ _ ihLeft ihRight | or _ _ ihLeft ihRight | and _ _ ihLeft ihRight
  | binary _ _ _ ihLeft ihRight =>
    simp only [withRegexes, bind_eq_ok, pure_eq_ok] at read
    obtain ⟨a, readLeft, b, readRight, rfl⟩ := read
    obtain ⟨left, right⟩ := List.append_eq_nil_iff.mp plain
    exact (ihLeft left readLeft).append (ihRight right readRight)
  | matchesRegex subject regex ih => simp [regexes] at plain
  | matchesDynamic subject pattern ihLeft ihRight =>
    simp only [withRegexes, bind_eq_ok] at read
    obtain ⟨a, readLeft, b, readRight, matched⟩ := read
    obtain ⟨left, right⟩ := List.append_eq_nil_iff.mp plain
    have same := text?_of_withRegexes readRight
    have inSubject := ihLeft left readLeft
    have inPattern := ihRight right readRight
    rw [patternTexts, ← same]
    unfold matching at matched
    split at matched
    · next p =>
      split at matched
      · next r whole =>
        cases matched
        rw [inPattern.eq_nil]
        exact inSubject.append (.singleton whole)
      · cases matched
    · next dynamic =>
      cases matched
      have none : b.text? = none := by
        unfold text?
        split
        · exact absurd rfl (dynamic _)
        · rfl
      rw [none, Option.toList_none, List.append_nil]
      exact inSubject.append inPattern

end Expr

/-- An accepted text is read as every tree that the grammar derives from its tokens. -/
theorem withRegexes_of_parse {text : String} {tokens : List Lexeme} {t : Expr} {e : Expression}
    (lexed : lexemes 0 (Text.trim text).toList = .ok tokens)
    (derives : Derives .or (tokensOf tokens) t) (parsed : Expression.parse text = .ok e) :
    t.withRegexes = .ok e.tree := by
  obtain ⟨tokens', tree, -, lexed', read, rfl⟩ := parse_eq_ok.mp parsed
  obtain rfl : tokens' = tokens := Except.ok.inj (lexed'.symm.trans lexed)
  have follows := derives.follows_parseTokens (Text.trim text).toList.length
  rw [read] at follows
  generalize t.withRegexes = y at follows
  cases follows
  rfl

theorem evaluate_matchesRegex {env : Environment} {subject : Expr} {s : String} (r : Regex)
    (text : subject.evaluate env = .ok (.string s)) :
    (Expr.matchesRegex subject r).evaluate env = .ok (.boolean (r.isMatch s)) := by
  simp only [Expr.evaluate, text]
  rfl

theorem evaluate_matchesDynamic {env : Environment} {subject pattern : Expr} {p s : String}
    (text : subject.evaluate env = .ok (.string s))
    (computed : pattern.evaluate env = .ok (.string p)) :
    (Expr.matchesDynamic subject pattern).evaluate env =
      (matchComputed s (.string p)).map .boolean := by
  simp only [Expr.evaluate, text, computed, bind, Except.bind, matchSubject]
  cases matchComputed s (.string p) <;> rfl

/-- The patterns of an accepted expression stand between the anchors. -/
theorem exists_read_of_mem_regexes {text : String} {e : Expression} {r : Regex}
    (parsed : Expression.parse text = .ok e) (member : r ∈ e.tree.regexes) :
    ∃ q, Regex.Engine.read (wholeMatch q) = .ok r := by
  obtain ⟨tokens, tree, -, lexed, read, rfl⟩ := parse_eq_ok.mp parsed
  obtain ⟨t, derives, withRegexes⟩ := denotes_of_parseTokens (ne_finish_of_lexemes lexed) read
  have whole := Expr.readsWhole_of_withRegexes derives.regexes_eq_nil withRegexes
  obtain ⟨q, -, read⟩ := whole.regex r member
  exact ⟨q, read⟩

/-- A text that is written as a pattern in an accepted expression is read between the anchors. -/
theorem exists_read_of_mem_patternTexts {text p : String} {tokens : List Lexeme} {t : Expr}
    {e : Expression} (lexed : lexemes 0 (Text.trim text).toList = .ok tokens)
    (derives : Derives .or (tokensOf tokens) t) (written : p ∈ t.patternTexts)
    (parsed : Expression.parse text = .ok e) : ∃ r, Regex.Engine.read (wholeMatch p) = .ok r := by
  have withRegexes := withRegexes_of_parse lexed derives parsed
  have whole := Expr.readsWhole_of_withRegexes derives.regexes_eq_nil withRegexes
  obtain ⟨r, -, read⟩ := whole.text p written
  exact ⟨r, read⟩

variable {Spans : (p s : String) → (i j : Nat) → Prop} {p s : String} {env : Environment}
  {subject pattern : Expr} {b : Bool}

theorem matchesRegex_iff_fullMatch (documented : Documented Spans) (opens : ¬ClosesEarly p)
    {r : Regex} (read : Regex.Engine.read (wholeMatch p) = .ok r)
    (text : subject.evaluate env = .ok (.string s))
    (matched : (Expr.matchesRegex subject r).evaluate env = .ok (.boolean b)) :
    b = true ↔ FullMatch Spans p s := by
  rw [evaluate_matchesRegex r text] at matched
  cases matched
  exact documented.isMatch_iff_fullMatch opens read s

theorem matchesDynamic_iff_fullMatch (documented : Documented Spans) (opens : ¬ClosesEarly p)
    (text : subject.evaluate env = .ok (.string s))
    (computed : pattern.evaluate env = .ok (.string p))
    (matched : (Expr.matchesDynamic subject pattern).evaluate env = .ok (.boolean b)) :
    b = true ↔ FullMatch Spans p s := by
  rw [evaluate_matchesDynamic text computed, matchComputed] at matched
  cases read : Regex.Engine.read (wholeMatch p) with
  | error =>
    rw [read] at matched
    cases matched
  | ok r =>
    rw [read] at matched
    cases matched
    exact documented.isMatch_iff_fullMatch opens read s

/-- A match takes the whole text, for a pattern that does not close the group of the anchors. A
pattern that is written out, or computed, matches exactly the texts that it matches by itself as a
whole; a text that is no pattern by itself is refused in both places. -/
theorem matches_takes_whole (documented : Documented Spans) (p : String) (opens : ¬ClosesEarly p) :
    (∀ text e, Expression.parse text = .ok e → ∀ r ∈ e.tree.regexes,
      (∃ q, Regex.Engine.read (wholeMatch q) = .ok r) ∧
        (r.source = wholeMatch p → ∀ env subject s b, subject.evaluate env = .ok (.string s) →
          (Expr.matchesRegex subject r).evaluate env = .ok (.boolean b) →
            (b = true ↔ FullMatch Spans p s))) ∧
    (∀ env subject pattern s b, subject.evaluate env = .ok (.string s) →
      pattern.evaluate env = .ok (.string p) →
        (Expr.matchesDynamic subject pattern).evaluate env = .ok (.boolean b) →
          (b = true ↔ FullMatch Spans p s)) ∧
    (¬IsPattern p → ∃ message,
      (∀ subject offset, matchExpr subject (.literal (.string p)) offset =
        .error ⟨.invalidPattern p (.invalid message), offset⟩) ∧
      (∀ text tokens t, lexemes 0 (Text.trim text).toList = .ok tokens →
        Derives .or (tokensOf tokens) t → p ∈ t.patternTexts →
          ∃ error, Expression.parse text = .error error) ∧
      ∀ env subject pattern s, subject.evaluate env = .ok (.string s) →
        pattern.evaluate env = .ok (.string p) →
          (Expr.matchesDynamic subject pattern).evaluate env =
            .error (.invalidPattern p (.invalid message))) := by
  refine ⟨?_, ?_, fun bad => ?_⟩
  · intro text e parsed r member
    obtain ⟨q, read⟩ := exists_read_of_mem_regexes parsed member
    refine ⟨⟨q, read⟩, fun source env subject s b value matched => ?_⟩
    obtain rfl : q = p := Regex.wholeMatch_injective ((documented.source read).symm.trans source)
    exact matchesRegex_iff_fullMatch documented opens read value matched
  · intro env subject pattern s b value computed matched
    exact matchesDynamic_iff_fullMatch documented opens value computed matched
  · obtain ⟨message, refused⟩ := documented.exists_read_wholeMatch_eq opens bad
    refine ⟨message, ?_, ?_, ?_⟩
    · intro subject offset
      simp only [matchExpr, refused]
    · intro text tokens t lexed derives written
      cases parsed : Expression.parse text with
      | error error => exact ⟨error, rfl⟩
      | ok e =>
        obtain ⟨r, read⟩ := exists_read_of_mem_patternTexts lexed derives written parsed
        cases refused.symm.trans read
    · intro env subject pattern s value computed
      rw [evaluate_matchesDynamic value computed, matchComputed, refused]
      rfl

end

/-- With the standard engine, a class and a letter match a text of two characters as a whole; a
group that is not closed is refused. -/
theorem class_takes_whole :
    Documented Regex.StandardSpans ∧ ¬ClosesEarly "[a-c]b" ∧
      matchComputed "cb" (.string "[a-c]b") = .ok true ∧
      FullMatch Regex.StandardSpans "[a-c]b" "cb" ∧ ¬ClosesEarly "(a" ∧ ¬IsPattern "(a" ∧
        ∃ message, matchExpr (.property "x") (.literal (.string "(a")) 2 =
          .error ⟨.invalidPattern "(a" (.invalid message), 2⟩ := by
  have opens : ¬ClosesEarly "[a-c]b" := Regex.not_closesEarly_of_notMem (by decide)
  have opens' : ¬ClosesEarly "(a" := Regex.not_closesEarly_of_notMem (by decide)
  have computed : matchComputed "cb" (.string "[a-c]b") = .ok true :=
    eq_ok_of_toOption (by decide +kernel)
  have bad : ¬IsPattern "(a" := by
    have none : Regex.pattern? "(a" = none := by decide +kernel
    rw [Regex.isPattern_iff, none]
    rintro ⟨_, ⟨⟩⟩
  have evaluated := @evaluate_matchesDynamic _ ⟨.null, []⟩ (.literal (.string "cb"))
    (.literal (.string "[a-c]b")) "[a-c]b" "cb" rfl rfl
  rw [computed] at evaluated
  have whole := (matches_takes_whole Regex.documented "[a-c]b" opens).2.1 ⟨.null, []⟩ _ _ "cb" true
    rfl rfl evaluated
  obtain ⟨message, refused, -⟩ := (matches_takes_whole Regex.documented "(a" opens').2.2 bad
  exact ⟨Regex.documented, opens, computed, whole.mp rfl, opens', bad, message, refused _ 2⟩

/-- What is read of `a)|(?:b` between the anchors: each of them holds for one branch only. -/
def splitAnchors : Regex.Node :=
  .alt (.seq (.look .textStart) (.literal ['a'])) (.seq (.literal ['b']) (.look .textEnd))

theorem isMatch_splitAnchors : splitAnchors.isMatch "ax" = true := by
  have first : (Regex.Node.seq (.look .textStart) (.literal ['a'])).ends "ax".toList.toArray [0] =
      [1] := by decide +kernel
  refine (Regex.isMatch_iff _ _).mpr ⟨0, 1, by decide, ?_⟩
  rw [splitAnchors, Regex.Node.ends, Regex.mem_merge, first]
  exact .inl (List.mem_singleton_self 1)

theorem read_splitAnchors :
    Regex.Engine.read (wholeMatch "a)|(?:b") =
      .ok ⟨wholeMatch "a)|(?:b", splitAnchors.isMatch⟩ := by
  have node : Regex.pattern? (wholeMatch "a)|(?:b") = some splitAnchors := by decide +kernel
  have fits : splitAnchors.fits = true := by decide +kernel
  change Regex.readPattern _ = _
  rw [Regex.readPattern, node]
  exact if_pos fits

/-- The property and the text of the pattern of a match of a property. -/
def Expr.propertyMatch? : Expr → Option (String × String)
  | .matchesRegex (.property name) r => some (name, r.source)
  | _ => none

theorem Expr.eq_of_propertyMatch? {e : Expr} {name source : String}
    (found : e.propertyMatch? = some (name, source)) :
    ∃ r, e = .matchesRegex (.property name) r ∧ r.source = source := by
  unfold propertyMatch? at found
  split at found
  · cases found
    exact ⟨_, rfl, rfl⟩
  · cases found

/-- The text `a)|(?:b` is no pattern, but it is taken for one, and it matches the start of `ax`. -/
theorem split_anchors_match_part :
    ClosesEarly "a)|(?:b" ∧ ¬IsPattern "a)|(?:b" ∧
      matchComputed "ax" (.string "a)|(?:b") = .ok true ∧
      ∃ e, Expression.parse "x matches 'a)|(?:b'" = .ok e ∧
        e.evaluate ⟨.record ⟨.unnamed, [("x", .string "ax")]⟩, []⟩ = .ok (.boolean true) := by
  have fits : Regex.FitsGroup "a" :=
    ⟨Regex.isPattern_iff.mpr ⟨.literal ['a'], by decide +kernel⟩,
      Regex.isPattern_iff.mpr ⟨.literal ['a'], by decide +kernel⟩⟩
  have early : ClosesEarly "a)|(?:b" := ⟨"a", "|(?:b", rfl, fits⟩
  have accepted : (Expression.parse "x matches 'a)|(?:b'").toOption.bind (·.tree.propertyMatch?) =
      some ("x", wholeMatch "a)|(?:b") := by decide +kernel
  obtain ⟨e, parsed, found⟩ := Option.bind_eq_some_iff.mp accepted
  obtain ⟨r, tree, source⟩ := Expr.eq_of_propertyMatch? found
  have member : r ∈ e.tree.regexes := by simp [tree, Expr.regexes]
  obtain ⟨q, read⟩ := exists_read_of_mem_regexes (eq_ok_of_toOption parsed) member
  obtain rfl : q = "a)|(?:b" :=
    Regex.wholeMatch_injective ((Regex.documented.source read).symm.trans source)
  cases read_splitAnchors.symm.trans read
  refine ⟨early, Regex.documented.not_isPattern_of_closesEarly early, ?_, e,
    eq_ok_of_toOption parsed, ?_⟩
  · rw [matchComputed, read_splitAnchors]
    exact congrArg Except.ok isMatch_splitAnchors
  · rw [Expression.evaluate, tree, evaluate_matchesRegex _ rfl]
    exact congrArg (Except.ok ∘ Value.boolean) isMatch_splitAnchors

end Remap.Expression
