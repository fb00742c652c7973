import Remap.Text.Derived
import Remap.Text.Fold

/-!
# Sets of characters

The sets that a pattern can name by a letter or between brackets and colons, each with a form for
all of Unicode or for ASCII alone. A set is a list of ranges of code points, so that two sets are
equal when they have the same members.
-/

namespace Remap.Regex

/-- A set of code points. -/
abbrev CharSet := Text.Ranges

namespace CharSet

/-- All code points. -/
def all : CharSet := [(0, Text.Ranges.last)]

/-- The code points of ASCII. -/
def ascii : CharSet := [(0, 127)]

/-- One code point. -/
def single (n : Nat) : CharSet := [(n, n)]

/-- The decimal digits of all scripts. -/
def digit : CharSet := Text.Category.ranges (· == .decimalNumber) .previous

/-- White space. -/
def blank : CharSet := Text.listed "whitespace"

/-- The characters of words: alphabetic ones, marks, decimal digits, connectors and joiners. -/
def word : CharSet :=
  let inWord : Text.Category → Bool
    | .nonspacingMark | .spacingMark | .enclosingMark | .decimalNumber
    | .connectorPunctuation => true
    | _ => false
  Text.Ranges.unions [Text.alphabetic .previous, Text.Category.ranges inWord .previous,
    Text.listed "joincontrol"]

/-- The decimal digits of ASCII. -/
def asciiDigit : CharSet := [(48, 57)]

/-- The white space of ASCII. -/
def asciiBlank : CharSet := [(9, 13), (32, 32)]

/-- The characters of words in ASCII. -/
def asciiWord : CharSet := [(48, 57), (65, 90), (95, 95), (97, 122)]

/-- The capital letters of ASCII in a set, as small ones, and the small ones as capital ones. -/
def asciiRelatives (s : CharSet) : CharSet :=
  let small := s.inter [(97, 122)]
  let capital := s.inter [(65, 90)]
  (small.map fun r => (r.1 - 32, r.2 - 32)) ++ capital.map fun r => (r.1 + 32, r.2 + 32)

/-- A set with all letters of ASCII that differ from one of it in case only. -/
def foldAscii (s : CharSet) : CharSet := s.union (asciiRelatives s)

/-- The sets that have a name of their own between brackets and colons. -/
def named? : String → Option CharSet
  | "alnum" => some [(48, 57), (65, 90), (97, 122)]
  | "alpha" => some [(65, 90), (97, 122)]
  | "ascii" => some ascii
  | "blank" => some [(9, 9), (32, 32)]
  | "cntrl" => some [(0, 31), (127, 127)]
  | "digit" => some asciiDigit
  | "graph" => some [(33, 126)]
  | "lower" => some [(97, 122)]
  | "print" => some [(32, 126)]
  | "punct" => some [(33, 47), (58, 64), (91, 96), (123, 126)]
  | "space" => some asciiBlank
  | "upper" => some [(65, 90)]
  | "word" => some asciiWord
  | "xdigit" => some [(48, 57), (65, 70), (97, 102)]
  | _ => none

end CharSet

end Remap.Regex
