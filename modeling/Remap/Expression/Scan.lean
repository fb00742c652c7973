import Remap.Expression.ParseError
import Remap.Text.Blank
import Remap.Text.Quoted

/-!
# From text to tokens

Splitting a text into tokens. The longest sign, number or word that starts at a character is
taken; blanks separate and are dropped. Offsets count characters.
-/

namespace Remap.Expression

/-- The sign that starts with a character, and how many characters it has after that one. -/
def sign? (c : Char) (next : Option Char) : Option (Token × Nat) :=
  match c with
  | '.' => some (.dot, 0)
  | '[' => some (.leftBracket, 0)
  | ']' => some (.rightBracket, 0)
  | '(' => some (.leftParen, 0)
  | ')' => some (.rightParen, 0)
  | '+' => some (.plus, 0)
  | '-' => some (.minus, 0)
  | '!' => some (if next == some '=' then (.notEqual, 1) else (.not, 0))
  | '=' => if next == some '=' then some (.equal, 1) else none
  | '<' => some (if next == some '=' then (.lessEqual, 1) else (.less, 0))
  | '>' => some (if next == some '=' then (.greaterEqual, 1) else (.greater, 0))
  | '&' => if next == some '&' then some (.and, 1) else none
  | '|' => if next == some '|' then some (.or, 1) else none
  | _ => none

/-- The longest name at the start of a text, empty if there is none. -/
def takeName : List Char → List Char
  | [] => []
  | c :: cs => if isNameStart c then c :: cs.takeWhile isNamePart else []

/-- The number at the start of a text. A point belongs to it only when a digit follows. -/
def readNumber (cs : List Char) : Except ParseFailure (Token × Nat) :=
  let whole := cs.takeWhile Char.isDigit
  match cs.dropWhile Char.isDigit with
  | '.' :: d :: rest =>
    if d.isDigit then
      let text := whole ++ '.' :: (d :: rest).takeWhile Char.isDigit
      match Number.read text with
      | some x => .ok (.decimal x, text.length)
      | none => .error (.invalidNumber (String.ofList text))
    else readWhole whole
  | _ => readWhole whole
where
  /-- A whole number in range. -/
  readWhole (whole : List Char) : Except ParseFailure (Token × Nat) :=
    match Integer.read whole with
    | .ok n => .ok (.integer n, whole.length)
    | .error _ => .error (.integerTooLarge (String.ofList whole))

/-- The token that starts with a character, and how many characters it has after that one. -/
def readToken (c : Char) (cs : List Char) : Except ParseFailure (Token × Nat) :=
  match sign? c cs.head? with
  | some found => .ok found
  | none =>
    if c == '\'' || c == '"' then
      match Text.readQuoted c cs with
      | some (text, rest) => .ok (.string (String.ofList text), cs.length - rest.length)
      | none => .error .unterminatedString
    else if c == '#' then
      let name := takeName cs
      if name.isEmpty then .error .missingVariableName
      else .ok (.variable (String.ofList name), name.length)
    else if c.isDigit then
      (readNumber (c :: cs)).map fun (token, size) => (token, size - 1)
    else if isNameStart c then
      let name := takeName (c :: cs)
      .ok (wordToken (String.ofList name), name.length - 1)
    else .error (.unexpectedCharacter c)

/-- The tokens of a text whose first character stands at an offset. -/
def lexemes (offset : Nat) (cs : List Char) : Except ParseError (List Lexeme) :=
  match cs with
  | [] => .ok []
  | c :: cs =>
    if Text.isBlank c then lexemes (offset + 1) cs
    else
      match readToken c cs with
      | .error failure => .error ⟨failure, offset⟩
      | .ok (token, size) => do
        let rest ← lexemes (offset + 1 + size) (cs.drop size)
        return ⟨token, offset⟩ :: rest
termination_by cs.length
decreasing_by
  · simp
  · simp only [List.length_drop, List.length_cons]; omega

/-- The tokens of a text in order, and the end as the last one. -/
def tokenize (text : String) : Except ParseError (List Lexeme) := do
  let found ← lexemes 0 text.toList
  return found ++ [⟨.finish, text.toList.length⟩]

end Remap.Expression
