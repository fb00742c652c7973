import Remap.Text.Category
import Remap.Text.Listed

/-!
# Escaped text

A text between double quotes in which everything that a reader could not see is written by its
code point: control and format characters, blanks other than the space, unassigned code points,
characters that only extend the one before them, and those that are not shown at all.
-/

namespace Remap.Text

/-- A category whose characters cannot be seen. -/
def Category.isInvisible : Category → Bool
  | .control | .format | .surrogate | .privateUse | .unassigned
  | .lineSeparator | .paragraphSeparator | .spaceSeparator => true
  | _ => false

/-- Characters outside the marks that extend the one before them, without the modifier letters. -/
def otherExtending : Ranges := listed "othergraphemeextend"

/-- Letters and other characters that are left out where they cannot be shown. -/
def otherIgnorable : Ranges := listed "otherdefaultignorablecodepoint"

/-- The character is a part of the one before it in what is shown, or is not shown at all. -/
def isAttached (c : Char) : Bool :=
  match Category.ofChar c with
  | .nonspacingMark | .enclosingMark => true
  | .modifierLetter => false
  | _ => otherExtending.contains c.toNat || otherIgnorable.contains c.toNat

/-- The character can stand for itself in an escaped text. -/
def isVisible (c : Char) : Bool :=
  if c.toNat < 127 then 32 ≤ c.toNat
  else !(Category.ofChar c).isInvisible && !isAttached c

/-- A character in an escaped text. -/
def escapeChar (c : Char) : List Char :=
  if c = '\x00' then ['\\', '0']
  else if c = '\t' then ['\\', 't']
  else if c = '\r' then ['\\', 'r']
  else if c = '\n' then ['\\', 'n']
  else if c = '"' then ['\\', '"']
  else if c = '\\' then ['\\', '\\']
  else if isVisible c then [c]
  else ['\\', 'u', '\x7b'] ++ Nat.toDigits 16 c.toNat ++ ['\x7d']

/-- The escaped text between double quotes. -/
def escaped (s : String) : String :=
  String.ofList ('"' :: s.toList.flatMap escapeChar ++ ['"'])

/-- An escaped text that may be missing. -/
def escaped? : Option String → String
  | none => "None"
  | some s => "Some(" ++ escaped s ++ ")"

end Remap.Text
