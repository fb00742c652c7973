/-!
# Engines for regular expressions

How a pattern is written and what it matches is the matter of an engine. Everything that reads or
evaluates an expression takes the engine as a parameter: it hands over the text of a pattern, and
asks the pattern that it gets whether it is found in a text.
-/

namespace Remap

/-- A pattern ready to be matched: the text it was read from, and whether it is found in a text. -/
structure Regex where
  source : String
  isMatch : String → Bool

namespace Regex

/-- Why a text is refused as a pattern, with the sentence of the engine for it. -/
inductive ReadError
  /-- It does not follow the syntax of patterns. -/
  | invalid (message : String)
  /-- It takes more room than the engine allows. -/
  | tooLarge (message : String)
  deriving DecidableEq, Repr

/-- The sentence for a refused pattern. -/
def ReadError.message : ReadError → String
  | .invalid message => message
  | .tooLarge message => message

/-- What reads patterns. -/
class Engine where
  /-- The pattern that a text stands for. -/
  read : String → Except ReadError Regex

end Regex

end Remap
