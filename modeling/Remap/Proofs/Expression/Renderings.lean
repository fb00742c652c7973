import Remap.Proofs.Expression.Numerals

/-!
# Tokens written down

Each token of the language has a written form, and some have two: `and` is also `&&`, and a text
stands in quotes of either kind. Only a decimal and the end are left out here. A blank ends every
form, whatever the form is: it goes on with no word, no number and no sign, and after the closing
quote of a text it is not one more quote.

Main statement: forms with a blank between each and the next are read as their tokens, each of them
at the offset where its form starts.
-/

namespace Remap.Expression

/-- The words of the language. -/
def keywords : List (String × Token) := [
  ("true", .true), ("false", .false), ("null", .null), ("and", .and), ("or", .or), ("not", .not),
  ("matches", .matches)]

/-- The signs of the language. -/
def signs : List (String × Token) := [
  (".", .dot), ("[", .leftBracket), ("]", .rightBracket), ("(", .leftParen), (")", .rightParen),
  ("+", .plus), ("-", .minus), ("!", .not), ("&&", .and), ("||", .or), ("==", .equal),
  ("!=", .notEqual), ("<", .less), ("<=", .lessEqual), (">", .greater), (">=", .greaterEqual)]

/-- The text is a name: a keyword or what stands alone as an identifier. -/
def isName (name : String) : Bool :=
  match name.toList with
  | [] => false
  | c :: cs => isNameStart c && cs.all isNamePart

/-- The token can be written down as it is. Names that no text can show are left out, and so are
negative integers, which are two tokens. -/
def Token.Writable : Token → Prop
  | .identifier name => isIdentifier name
  | .variable name => isName name
  | .integer n => 0 ≤ n.val
  | .decimal _ | .finish => False
  | _ => True

/-- A token together with one of its written forms. -/
inductive Rendering
  | identifier (name : String) (standsAlone : isIdentifier name = true)
  | variable (name : String) (named : isName name = true)
  | integer (n : Integer) (unsigned : 0 ≤ n.val)
  | string (quote : Char) (isQuote : quote = '\'' ∨ quote = '"') (content : String)
  | keyword (word : String) (token : Token) (listed : (word, token) ∈ keywords)
  | sign (form : String) (token : Token) (listed : (form, token) ∈ signs)

namespace Rendering

/-- The token that is written. -/
def token : Rendering → Token
  | .identifier name _ => .identifier name
  | .variable name _ => .variable name
  | .integer n _ => .integer n
  | .string _ _ content => .string content
  | .keyword _ token _ => token
  | .sign _ token _ => token

/-- The written form. A quote inside a quoted text is doubled. -/
def text : Rendering → String
  | .identifier name _ => name
  | .variable name _ => "#" ++ name
  | .integer n _ => n.text
  | .string quote _ content =>
    String.ofList (quote :: (Text.doubleQuotes quote content.toList ++ [quote]))
  | .keyword word _ _ => word
  | .sign form _ _ => form

/-- The tokens at the offsets where their forms start, if the first starts at an offset and one
character stands between each form and the next. -/
def placed (offset : Nat) : List Rendering → List Lexeme
  | [] => []
  | r :: rs => ⟨r.token, offset⟩ :: placed (offset + r.text.length + 1) rs

/-! ## A form for every token -/

/-- A token that is listed with a form has this form. -/
theorem exists_of_listed {t : Token} (listed : ∃ form, (form, t) ∈ keywords ∨ (form, t) ∈ signs) :
    ∃ r : Rendering, r.token = t := by
  obtain ⟨form, keyword | sign⟩ := listed
  · exact ⟨.keyword form t keyword, rfl⟩
  · exact ⟨.sign form t sign, rfl⟩

/-- Every token that can be written down has a form. -/
theorem exists_of_writable {t : Token} (writable : t.Writable) : ∃ r : Rendering, r.token = t := by
  cases t with
  | identifier name => exact ⟨.identifier name writable, rfl⟩
  | «variable» name => exact ⟨.variable name writable, rfl⟩
  | integer n => exact ⟨.integer n writable, rfl⟩
  | string content => exact ⟨.string '"' (.inr rfl) content, rfl⟩
  | decimal => exact writable.elim
  | finish => exact writable.elim
  | _ => exact exists_of_listed (by simp [keywords, signs])

/-! ## Forms before a blank -/

/-- A form ends here: the text is at its end or goes on with a blank. -/
inductive Ends : List Char → Prop
  | finished : Ends []
  | blank (rest : List Char) : Ends (' ' :: rest)

variable {offset : Nat} {rest : List Char}

theorem Ends.endsWord (ends : Ends rest) : EndsWord rest := by
  cases ends with
  | finished => exact .nil
  | blank rest =>
    rintro c ⟨⟩
    decide

theorem Ends.endsNumber (ends : Ends rest) : EndsNumber rest := by
  cases ends with
  | finished => exact .nil
  | blank rest =>
    rintro c ⟨⟩
    decide

theorem Ends.ne_quote (ends : Ends rest) {quote : Char} (isQuote : quote = '\'' ∨ quote = '"') :
    rest.head? ≠ some quote := by
  cases ends with
  | finished => nofun
  | blank rest =>
    rintro ⟨⟩
    obtain same | same := isQuote <;> cases same

/-- A number sign and a name. -/
theorem lexes_variable (offset : Nat) {name : String} (named : isName name = true)
    (ends : EndsWord rest) :
    Lexes offset ('#' :: name.toList) [⟨.variable name, offset⟩] rest := by
  unfold isName at named
  split at named
  · cases named
  · next c cs chars =>
    rw [Bool.and_eq_true] at named
    have taken : takeName (c :: (cs ++ rest)) = c :: cs := by
      rw [takeName, if_pos named.1, Lexes.takeWhile_append_of_ends named.2 ends]
    have name' : String.ofList (c :: cs) = name := by rw [← chars, String.ofList_toList]
    rw [chars]
    refine .token rfl ?_
    simp [readToken, sign?, taken, name']

/-- A word of the language is no identifier, and nothing after it goes on with it. -/
theorem lexes_keyword (offset : Nat) {word : String} {token : Token} {c : Char} {cs : List Char}
    (chars : word.toList = c :: cs) (keyword : keyword? word = some token)
    (starts : isNameStart c = true) (parts : cs.all isNamePart = true) (ends : EndsWord rest) :
    Lexes offset word.toList [⟨token, offset⟩] rest := by
  have named := Lexes.word offset starts parts ends
  rwa [← chars, String.ofList_toList, wordToken, keyword] at named

/-- A sign is as long as it can be at the end of a text and before a blank. -/
theorem lexes_sign (offset : Nat) {form : String} {token : Token} {c : Char} {cs : List Char}
    (chars : form.toList = c :: cs) (solid : Text.isBlank c = false)
    (atEnd : sign? c cs.head? = some (token, cs.length))
    (beforeBlank : sign? c (cs ++ [' ']).head? = some (token, cs.length)) (ends : Ends rest) :
    Lexes offset form.toList [⟨token, offset⟩] rest := by
  rw [chars]
  refine .token solid ?_
  cases ends with
  | finished => rw [List.append_nil, readToken, atEnd]
  | blank rest =>
    have next : (cs ++ ' ' :: rest).head? = (cs ++ [' ']).head? := by
      rw [List.head?_append, List.head?_append, List.head?_cons, List.head?_cons]
    rw [readToken, next, beforeBlank]

theorem lexes_keywords (offset : Nat) (ends : Ends rest) :
    ∀ entry ∈ keywords, Lexes offset entry.1.toList [⟨entry.2, offset⟩] rest := by
  simp only [keywords, List.forall_mem_cons]
  refine ⟨?_, ?_, ?_, ?_, ?_, ?_, ?_, List.forall_mem_nil _⟩
  all_goals exact lexes_keyword offset rfl rfl rfl rfl ends.endsWord

theorem lexes_signs (offset : Nat) (ends : Ends rest) :
    ∀ entry ∈ signs, Lexes offset entry.1.toList [⟨entry.2, offset⟩] rest := by
  simp only [signs, List.forall_mem_cons]
  refine ⟨?_, ?_, ?_, ?_, ?_, ?_, ?_, ?_, ?_, ?_, ?_, ?_, ?_, ?_, ?_, ?_, List.forall_mem_nil _⟩
  all_goals exact lexes_sign offset rfl rfl rfl rfl ends

/-- Every form is read as its token where it ends. -/
theorem lexes (r : Rendering) (offset : Nat) (ends : Ends rest) :
    Lexes offset r.text.toList [⟨r.token, offset⟩] rest := by
  cases r with
  | identifier name standsAlone =>
    obtain ⟨c, cs, chars, starts, parts, word⟩ := exists_of_isIdentifier standsAlone
    have named := Lexes.word offset starts parts ends.endsWord
    rwa [← chars, String.ofList_toList, word] at named
  | «variable» name named =>
    have sign := lexes_variable offset named ends.endsWord
    rwa [text, String.toList_append]
  | integer n unsigned => exact .integer offset unsigned ends.endsNumber
  | string quote isQuote content =>
    have quoted := Lexes.quoted offset isQuote content.toList (ends.ne_quote isQuote)
    rwa [String.ofList_toList, ← String.toList_ofList (l := quote :: _)] at quoted
  | keyword word token listed => exact lexes_keywords offset ends _ listed
  | sign form token listed => exact lexes_signs offset ends _ listed

/-! ## Forms in a row -/

/-- Forms with a blank between each and the next are read one by one, since the blank ends each of
them. -/
theorem lexes_intercalate (rs : List Rendering) (offset : Nat) :
    Lexes offset (" ".intercalate (rs.map text)).toList (placed offset rs) [] := by
  induction rs generalizing offset with
  | nil => exact .nil
  | cons r rs ih =>
    cases rs with
    | nil =>
      have only := r.lexes offset .finished
      rwa [List.map_singleton, String.toList_intercalate, List.map_singleton,
        List.intercalate_singleton]
    | cons next more =>
      have form := r.lexes offset (.blank ((" ".intercalate ((next :: more).map text)).toList ++ []))
      have blank : Lexes (offset + r.text.toList.length) [' '] []
          ((" ".intercalate ((next :: more).map text)).toList ++ []) := .blanks rfl
      have whole := form.append (blank.append (ih (offset + r.text.toList.length + 1)))
      rw [String.length_toList] at whole
      rw [String.toList_intercalate, List.map_cons, List.map_cons, List.map_cons, List.map_cons,
        List.intercalate_cons_cons, List.append_assoc]
      rwa [String.toList_intercalate, List.map_cons, List.map_cons] at whole

/-- The tokens of a text are recovered. Whatever tokens are written with a blank between each and
the next, each in any of its forms, the text is read as these tokens, each of them at the offset
where its form starts, and the end behind the last character. -/
theorem tokenize_intercalate (rs : List Rendering) :
    tokenize (" ".intercalate (rs.map text)) =
      .ok (placed 0 rs ++ [⟨.finish, (" ".intercalate (rs.map text)).length⟩]) := by
  have lexed := (lexes_intercalate rs 0).lexemes_eq
  rw [tokenize, lexed, ← String.length_toList]
  rfl

end Rendering

end Remap.Expression
