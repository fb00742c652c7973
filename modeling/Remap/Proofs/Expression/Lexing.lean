import Remap.Expression.Scan
import Remap.Proofs.Fallible

/-!
# Reading tokens piece by piece

A text is read into tokens from the left, so a text put together from pieces gives the tokens of
the pieces, if none of them runs on into what follows it. `Lexes` states this for one piece;
pieces are put together by `Lexes.append`.

A piece is a run of blanks, a sign, a quoted text or a word. No piece gives the token of the end.
-/

namespace Remap.Expression

/-- A character goes on with a word only if it is not a blank. -/
theorem isBlank_eq_false_of_isNamePart {c : Char} (h : isNamePart c = true) :
    Text.isBlank c = false := by
  simp only [isNamePart, Bool.or_eq_true, beq_iff_eq] at h
  obtain (alphanumeric | underscore) | dollar := h
  · exact Text.isBlank_eq_false_of_isAlphanumeric alphanumeric
  · subst underscore; rfl
  · subst dollar; rfl

/-- What a name can start with, it can go on with. -/
theorem isNamePart_of_isNameStart {c : Char} (h : isNameStart c = true) : isNamePart c = true := by
  simp only [isNameStart, isNamePart, Text.isAlphanumeric, Bool.or_eq_true] at *
  exact h.imp_left (Or.imp_left .inl)

/-- A name does not start with a sign. -/
theorem sign?_of_isNameStart {c : Char} (h : isNameStart c = true) (next : Option Char) :
    sign? c next = none := by
  unfold sign?
  split
  all_goals first | rfl | exact absurd h (by decide)

/-- A name does not start with a character that something else starts with. -/
theorem ne_of_isNameStart {c d : Char} (h : isNameStart c = true) (other : isNameStart d = false) :
    (c == d) = false := by
  rw [beq_eq_false_iff_ne]
  rintro rfl
  rw [h] at other
  cases other

/-- A name does not start with a decimal digit. -/
theorem isDigit_eq_false_of_isNameStart {c : Char} (h : isNameStart c = true) :
    c.isDigit = false := by
  rw [Bool.eq_false_iff]
  intro digit
  have range := Text.isDigit_iff.mp digit
  have ascii : c.toNat < 128 := by omega
  simp only [isNameStart, Text.isAlphabetic, if_pos ascii, Bool.or_eq_true, beq_iff_eq] at h
  obtain (letter | rfl) | rfl := h
  · have range' := Text.isAlpha_iff.mp letter
    omega
  · exact absurd range (by decide)
  · exact absurd range (by decide)

/-- The character by itself is a token, whatever follows it. -/
structure Sign (c : Char) (token : Token) : Prop where
  solid : Text.isBlank c = false
  found : ∀ next, sign? c next = some (token, 0)

namespace Sign

theorem leftParen : Sign '(' .leftParen := ⟨rfl, fun _ => rfl⟩

theorem rightParen : Sign ')' .rightParen := ⟨rfl, fun _ => rfl⟩

theorem leftBracket : Sign '[' .leftBracket := ⟨rfl, fun _ => rfl⟩

theorem rightBracket : Sign ']' .rightBracket := ⟨rfl, fun _ => rfl⟩

end Sign

/-- The characters at `offset` read as tokens when a text follows them: they give `lexed`, and
reading goes on behind them. -/
def Lexes (offset : Nat) (cs : List Char) (lexed : List Lexeme) (rest : List Char) : Prop :=
  lexemes offset (cs ++ rest) = (lexemes (offset + cs.length) rest).map (lexed ++ ·)

namespace Lexes

variable {offset : Nat} {cs ds rest : List Char} {lexed more : List Lexeme}

theorem nil : Lexes offset [] [] rest := by
  unfold Lexes
  cases h : lexemes offset rest <;> simp [h, Except.map]

/-- Pieces are put together. -/
theorem append (first : Lexes offset cs lexed (ds ++ rest))
    (second : Lexes (offset + cs.length) ds more rest) :
    Lexes offset (cs ++ ds) (lexed ++ more) rest := by
  unfold Lexes at *
  rw [List.append_assoc, first, second, List.length_append, Nat.add_assoc]
  cases lexemes (offset + (cs.length + ds.length)) rest <;> simp [Except.map]

/-- The tokens of a text that is one piece. -/
theorem lexemes_eq (piece : Lexes offset cs lexed []) : lexemes offset cs = .ok lexed := by
  unfold Lexes at piece
  rw [List.append_nil, lexemes] at piece
  simpa [Except.map] using piece

/-- Blanks give no token. -/
theorem blanks (h : cs.all Text.isBlank = true) : Lexes offset cs [] rest := by
  induction cs generalizing offset with
  | nil => exact nil
  | cons c cs ih =>
    rw [List.all_cons, Bool.and_eq_true] at h
    have tail : Lexes (offset + 1) cs [] rest := ih h.2
    unfold Lexes at *
    rw [List.cons_append, lexemes, if_pos h.1, tail, List.length_cons, Nat.add_right_comm,
      Nat.add_assoc offset]

/-- A token that is read up to its end. -/
theorem token {c : Char} {token : Token} (solid : Text.isBlank c = false)
    (read : readToken c (cs ++ rest) = .ok (token, cs.length)) :
    Lexes offset (c :: cs) [⟨token, offset⟩] rest := by
  unfold Lexes
  rw [List.cons_append, lexemes, if_neg (by simp [solid]), read]
  simp only [List.drop_left, List.length_cons]
  rw [Nat.add_assoc, Nat.add_comm 1]
  rfl

/-- A sign of one character. -/
theorem sign {c : Char} {token : Token} (sign : Sign c token) :
    Lexes offset [c] [⟨token, offset⟩] rest :=
  Lexes.token sign.solid (by rw [readToken, sign.found]; rfl)

/-- A piece between two signs, with blanks around it. -/
theorem enclosed {before after : List Char} {o c : Char} {opening closing : Token}
    (piece : Lexes (offset + 1 + before.length) cs lexed (after ++ ([c] ++ rest)))
    (opens : Sign o opening) (closes : Sign c closing)
    (blankBefore : before.all Text.isBlank = true) (blankAfter : after.all Text.isBlank = true) :
    Lexes offset ([o] ++ (before ++ (cs ++ (after ++ [c]))))
      (⟨opening, offset⟩ ::
        (lexed ++ [⟨closing, offset + 1 + before.length + cs.length + after.length⟩])) rest := by
  rw [← List.append_assoc] at piece
  exact (sign opens).append <| (blanks blankBefore).append <| piece.append <|
    (blanks blankAfter).append <| sign closes

/-- A quoted text. -/
theorem quoted (offset : Nat) {quote : Char} (isQuote : quote = '\'' ∨ quote = '"')
    (text : List Char) (ends : rest.head? ≠ some quote) :
    Lexes offset (quote :: (Text.doubleQuotes quote text ++ [quote]))
      [⟨.string (String.ofList text), offset⟩] rest := by
  have read := Text.readQuoted_doubleQuotes quote text rest ends
  have size : (Text.doubleQuotes quote text ++ quote :: rest).length - rest.length =
      (Text.doubleQuotes quote text ++ [quote]).length := by
    simp only [List.length_append, List.length_cons, List.length_nil]
    omega
  refine token ?_ ?_
  · obtain rfl | rfl := isQuote <;> rfl
  · rw [List.append_assoc, List.singleton_append, ← size]
    obtain rfl | rfl := isQuote <;> simp [readToken, sign?, read]

/-- Characters of a kind are taken up to where the rest does not go on with them. -/
theorem takeWhile_append_of_ends {p : Char → Bool} (all : cs.all p = true)
    (ends : ∀ d ∈ rest.head?, p d = false) : (cs ++ rest).takeWhile p = cs := by
  rw [List.takeWhile_append_of_pos (List.all_eq_true.1 all)]
  cases rest with
  | nil => rw [List.takeWhile_nil, List.append_nil]
  | cons d rest => rw [List.takeWhile_cons_of_neg (by simp [ends d rfl]), List.append_nil]

/-- A word, which nothing after it goes on with. -/
theorem word (offset : Nat) {c : Char} (starts : isNameStart c = true)
    (parts : cs.all isNamePart = true) (ends : ∀ d ∈ rest.head?, isNamePart d = false) :
    Lexes offset (c :: cs) [⟨wordToken (String.ofList (c :: cs)), offset⟩] rest := by
  have taken := takeWhile_append_of_ends parts ends
  have single : (c == '\'') = false := ne_of_isNameStart starts (by decide)
  have double : (c == '"') = false := ne_of_isNameStart starts (by decide)
  have hash : (c == '#') = false := ne_of_isNameStart starts (by decide)
  refine token (isBlank_eq_false_of_isNamePart (isNamePart_of_isNameStart starts)) ?_
  simp only [readToken, sign?_of_isNameStart starts, single, double, hash,
    isDigit_eq_false_of_isNameStart starts, starts, takeName, taken, Bool.or_self,
    Bool.false_eq_true, if_false, if_true, List.length_cons, Nat.add_sub_cancel]

end Lexes

/-! ## The end is no token of a text -/

theorem ne_finish_of_sign? {c : Char} {next : Option Char} {token : Token} {size : Nat}
    (found : sign? c next = some (token, size)) : token ≠ .finish := by
  rintro rfl
  unfold sign? at found
  split at found
  all_goals first | cases found | (split at found <;> cases found)

theorem wordToken_ne_finish (word : String) : wordToken word ≠ .finish := by
  intro finish
  unfold wordToken at finish
  cases isKeyword : keyword? word with
  | none => rw [isKeyword] at finish; cases finish
  | some token =>
    rw [isKeyword] at finish
    obtain rfl : token = .finish := finish
    unfold keyword? at isKeyword
    split at isKeyword <;> cases isKeyword

theorem ne_finish_of_readNumber {cs : List Char} {token : Token} {size : Nat}
    (read : readNumber cs = .ok (token, size)) : token ≠ .finish := by
  have whole {digits : List Char} (read : readNumber.readWhole digits = .ok (token, size)) :
      token ≠ .finish := by
    unfold readNumber.readWhole at read
    split at read <;> cases read
    nofun
  unfold readNumber at read
  split at read
  · split at read
    · simp only at read
      split at read <;> cases read
      nofun
    · exact whole read
  · exact whole read

theorem ne_finish_of_readToken {c : Char} {cs : List Char} {token : Token} {size : Nat}
    (read : readToken c cs = .ok (token, size)) : token ≠ .finish := by
  unfold readToken at read
  cases found : sign? c cs.head? with
  | some sign =>
    rw [found] at read
    cases read
    exact ne_finish_of_sign? found
  | none =>
    simp only [found] at read
    split at read
    · split at read <;> cases read
      nofun
    split at read
    · split at read <;> cases read
      nofun
    split at read
    · cases number : readNumber (c :: cs) with
      | error => rw [number] at read; cases read
      | ok result =>
        rw [number] at read
        cases read
        exact ne_finish_of_readNumber number
    split at read
    · cases read
      exact wordToken_ne_finish _
    · cases read

theorem ne_finish_of_lexemes {offset : Nat} {cs : List Char} {tokens : List Lexeme}
    (lexed : lexemes offset cs = .ok tokens) : ∀ l ∈ tokens, l.token ≠ .finish := by
  induction offset, cs using lexemes.induct generalizing tokens with
  | case1 offset =>
    rw [lexemes] at lexed
    cases lexed
    exact List.forall_mem_nil _
  | case2 offset c cs blank ih =>
    rw [lexemes, if_pos blank] at lexed
    exact ih lexed
  | case3 offset c cs solid failure failed =>
    rw [lexemes, if_neg solid, failed] at lexed
    cases lexed
  | case4 offset c cs solid token size read ih =>
    rw [lexemes, if_neg solid, read] at lexed
    simp only [bind_eq_ok, pure_eq_ok] at lexed
    obtain ⟨rest, lexed, rfl⟩ := lexed
    intro l member
    cases member with
    | head => exact ne_finish_of_readToken read
    | tail _ member => exact ih lexed l member

end Remap.Expression
