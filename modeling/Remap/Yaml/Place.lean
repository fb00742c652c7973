/-!
# Places in a text

Where a reader of a document stands: what is still to be read, and the index, line and column of
the next character. Columns decide about nesting, lines and indices about how far a key may be
from its colon.
-/

namespace Remap.Yaml

/-- A line break. -/
def isBreak (c : Char) : Bool :=
  c == '\n' || c == '\r' || c.toNat == 0x85 || c.toNat == 0x2028 || c.toNat == 0x2029

/-- A blank inside a line. -/
def isBlank (c : Char) : Bool := c == ' ' || c == '\t'

/-- A letter or digit of a name: those of ASCII, the hyphen and the underscore. -/
def isWord (c : Char) : Bool := c.isAlphanum || c == '-' || c == '_'

/-- A blank, a line break or the end. -/
def isGap : Option Char → Bool
  | none => true
  | some c => isBlank c || isBreak c

/-- A line break or the end. -/
def isLineEnd : Option Char → Bool
  | none => true
  | some c => isBreak c

/-- What is left of a text, and where it starts. -/
structure Place where
  rest : List Char
  index : Nat := 0
  line : Nat := 0
  column : Nat := 0

namespace Place

/-- The next character. -/
def peek (p : Place) : Option Char := p.rest.head?

/-- The character after some others. -/
def peekAt (p : Place) (n : Nat) : Option Char := p.rest[n]?

/-- Is the next character this one? -/
def sees (p : Place) (c : Char) : Bool := p.peek == some c

/-- Past some characters of a line. -/
def skip (p : Place) (n : Nat) : Place :=
  { p with rest := p.rest.drop n, index := p.index + n, column := p.column + n }

/-- The characters of a line that satisfy a test, and the place behind them. -/
def takeWhile (p : Place) (test : Char → Bool) : List Char × Place :=
  let taken := p.rest.takeWhile test
  (taken, p.skip taken.length)

/-- Past the characters of a line that satisfy a test. -/
def dropWhile (p : Place) (test : Char → Bool) : Place := (p.takeWhile test).2

/-- A line break as it counts in a scalar, and the place behind it; nothing if there is none. -/
def takeBreak (p : Place) : List Char × Place :=
  let next (n : Nat) : Place := ⟨p.rest.drop n, p.index + n, p.line + 1, 0⟩
  match p.rest with
  | '\r' :: '\n' :: _ => (['\n'], next 2)
  | c :: _ =>
    if c.toNat == 0x2028 || c.toNat == 0x2029 then ([c], next 1)
    else if isBreak c then (['\n'], next 1)
    else ([], p)
  | [] => ([], p)

/-- Three equal characters and a gap at the start of a line. -/
def seesMarker (p : Place) (c : Char) : Bool :=
  p.column == 0 && p.peek == some c && p.peekAt 1 == some c && p.peekAt 2 == some c &&
    isGap (p.peekAt 3)

/-- A document starts or ends here. -/
def seesDocumentMark (p : Place) : Bool := p.seesMarker '-' || p.seesMarker '.'

end Place

end Remap.Yaml
