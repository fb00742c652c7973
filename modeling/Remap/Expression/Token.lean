import Remap.Model.Value
import Remap.Text.Letter

/-!
# Tokens of expressions

The words and signs that expressions are made of, how a token is named in a message, and which
texts can stand as a name without quotes.
-/

namespace Remap.Expression

/-- A token. `finish` stands for the end of the expression. -/
inductive Token
  | identifier (name : String)
  | variable (name : String)
  | integer (n : Integer)
  | decimal (x : Float)
  | string (s : String)
  | true
  | false
  | null
  | dot
  | leftBracket
  | rightBracket
  | leftParen
  | rightParen
  | plus
  | minus
  | not
  | and
  | or
  | equal
  | notEqual
  | less
  | lessEqual
  | greater
  | greaterEqual
  | matches
  | finish
  deriving Inhabited

/-- A token as messages name it. -/
def Token.describe : Token → String
  | .identifier name => "identifier '" ++ name ++ "'"
  | .variable name => "variable '#" ++ name ++ "'"
  | .integer n => "number " ++ n.text
  | .decimal x => "number " ++ Number.text x
  | .string s => "string '" ++ s ++ "'"
  | .true => "'true'"
  | .false => "'false'"
  | .null => "'null'"
  | .dot => "'.'"
  | .leftBracket => "'['"
  | .rightBracket => "']'"
  | .leftParen => "'('"
  | .rightParen => "')'"
  | .plus => "'+'"
  | .minus => "'-'"
  | .not => "'!'"
  | .and => "'&&'"
  | .or => "'||'"
  | .equal => "'=='"
  | .notEqual => "'!='"
  | .less => "'<'"
  | .lessEqual => "'<='"
  | .greater => "'>'"
  | .greaterEqual => "'>='"
  | .matches => "'matches'"
  | .finish => "end of expression"

/-- A token and the offset in characters where it starts. -/
structure Lexeme where
  token : Token
  offset : Nat
  deriving Inhabited

/-- The words of the language. -/
def keyword? : String → Option Token
  | "true" => some .true
  | "false" => some .false
  | "null" => some .null
  | "and" => some .and
  | "or" => some .or
  | "not" => some .not
  | "matches" => some .matches
  | _ => none

/-- The token of a word: a keyword or an identifier. -/
def wordToken (word : String) : Token :=
  (keyword? word).getD (.identifier word)

/-- A character that a name can start with. -/
def isNameStart (c : Char) : Bool :=
  Text.isAlphabetic c || c == '_' || c == '$'

/-- A character that a name can go on with. -/
def isNamePart (c : Char) : Bool :=
  Text.isAlphanumeric c || c == '_' || c == '$'

/-- The text can stand as a name without quotes. -/
def isIdentifier (name : String) : Bool :=
  match name.toList with
  | [] => false
  | c :: cs => isNameStart c && cs.all isNamePart && (keyword? name).isNone

end Remap.Expression
