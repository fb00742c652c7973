/-!
# Splitting a text

The parts of a text between the occurrences of a delimiter, taken from left to right. The empty
delimiter stands before, between and behind all characters.
-/

namespace Remap.Text

/-- The parts between occurrences of a delimiter that is not empty; `part` holds the characters
of the current part, last first, and `skip` those of a delimiter still to be passed. -/
def splitParts (delimiter : List Char) : (part : List Char) → (skip : Nat) → List Char →
    List (List Char)
  | part, _, [] => [part.reverse]
  | part, skip + 1, _ :: cs => splitParts delimiter part skip cs
  | part, 0, c :: cs =>
    if delimiter.isPrefixOf (c :: cs) then
      part.reverse :: splitParts delimiter [] (delimiter.length - 1) cs
    else splitParts delimiter (c :: part) 0 cs

/-- The parts of a text between the occurrences of a delimiter. -/
def splitOn (delimiter text : List Char) : List (List Char) :=
  if delimiter.isEmpty then [] :: text.map (fun c => [c]) ++ [[]]
  else splitParts delimiter [] 0 text

end Remap.Text
