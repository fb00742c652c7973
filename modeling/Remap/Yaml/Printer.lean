import Remap.Datum.Basic
import Remap.Number.Text
import Remap.Yaml.Meaning

/-!
# Printing data as a document

A data tree in block style. Each entry is on a line of its own; lists stand below their key and
are not indented against it, tables are indented by two. Texts are plain where that reads back as
the same text. Otherwise they are quoted, or literal blocks if they have lines.
-/

namespace Remap.Yaml

/-! ## Which style a text can have -/

/-- A character that can be shown as it is. -/
def isPrintable (c : Char) : Bool :=
  let n := c.toNat
  n == 0x0A || (0x20 ≤ n && n ≤ 0x7E) || (0xA0 ≤ n && n ≤ 0xFFFD && n != 0xFEFF) || 0x10000 ≤ n

/-- A space. -/
def isSpace (c : Char) : Bool := c == ' '

/-- Some character that satisfies a test is directly before one that satisfies another. -/
def hasPair (first second : Char → Bool) : List Char → Bool
  | a :: b :: rest => (first a && second b) || hasPair first second (b :: rest)
  | _ => false

/-- A character means something at the start of a scalar in front of another one. -/
def isStartMark (c : Char) (next : Option Char) : Bool :=
  "#,[]\x7b\x7d&*!|>'\"%@`".toList.contains c || ((c == '?' || c == ':' || c == '-') && isGap next)

/-- A colon before a gap, or a number sign behind one. -/
def hasInnerMark : List Char → Bool
  | a :: b :: rest =>
    (b == ':' && isGap rest.head?) || (b == '#' && isGap (some a)) || hasInnerMark (b :: rest)
  | _ => false

/-- Something in the text would be read as more than text. -/
def hasMark (cs : List Char) : Bool :=
  cs.take 3 == ['-', '-', '-'] || cs.take 3 == ['.', '.', '.'] || hasInnerMark cs ||
    match cs with
    | [] => false
    | c :: rest => isStartMark c rest.head?

/-- The text has a character that has to be escaped, or a space at the end of a line. -/
def needsEscape (cs : List Char) : Bool := !cs.all isPrintable || hasPair isSpace isBreak cs

/-- The text can be plain, as far as its characters go. -/
def allowsPlain (cs : List Char) : Bool :=
  !needsEscape cs && !cs.any isBreak && !hasMark cs && cs.head? != some ' ' &&
    cs.getLast? != some ' '

/-- The text can be in single quotes. -/
def allowsSingle (cs : List Char) : Bool := !needsEscape cs && !hasPair isBreak isSpace cs

/-- The text can be a literal block. -/
def allowsLiteral (cs : List Char) : Bool := !needsEscape cs && cs.getLast? != some ' '

/-! ## Texts -/

/-- Some spaces. -/
def spaces (n : Nat) : List Char := List.replicate n ' '

/-- The lines of a text behind each other; each line is indented, and empty lines are empty. The
flag says that a line starts. -/
def indentLines (indent : Nat) : (start : Bool) → List Char → List Char
  | _, [] => []
  | start, c :: rest =>
    if isBreak c then c :: indentLines indent true rest
    else if start then spaces indent ++ c :: indentLines indent false rest
    else c :: indentLines indent false rest

/-- A text in single quotes: quotes are doubled, and the first of several breaks of the plain kind
is written twice. -/
def singleLines (indent : Nat) : (start : Bool) → List Char → List Char
  | start, [] => if start then spaces indent else []
  | start, c :: rest =>
    if isBreak c then
      if !start && c == '\n' then c :: c :: singleLines indent true rest
      else c :: singleLines indent true rest
    else
      let body := if c == '\'' then [c, c] else [c]
      (if start then spaces indent else []) ++ body ++ singleLines indent false rest

/-- A text in single quotes. -/
def single (indent : Nat) (cs : List Char) : List Char :=
  '\'' :: singleLines indent false cs ++ ['\'']

/-- A digit of sixteen. -/
def hexChar (n : Nat) : Char := if n < 10 then Char.ofNat (48 + n) else Char.ofNat (55 + n)

/-- The last hexadecimal digits of a number. -/
def hexDigits : (count n : Nat) → List Char
  | 0, _ => []
  | count + 1, n => hexDigits count (n / 16) ++ [hexChar (n % 16)]

/-- The escapes of one letter. -/
def shortEscapes : List (Nat × Char) :=
  [(0, '0'), (7, 'a'), (8, 'b'), (9, 't'), (10, 'n'), (11, 'v'), (12, 'f'), (13, 'r'), (27, 'e'),
    (34, '"'), (92, '\\'), (0x85, 'N'), (0xA0, '_'), (0x2028, 'L'), (0x2029, 'P')]

/-- A character in double quotes. -/
def doubleChar (c : Char) : List Char :=
  let n := c.toNat
  if isPrintable c && !isBreak c && c != '"' && c != '\\' then [c]
  else
    match shortEscapes.find? fun entry => entry.1 == n with
    | some (_, letter) => ['\\', letter]
    | none =>
      if n ≤ 0xFF then '\\' :: 'x' :: hexDigits 2 n
      else if n ≤ 0xFFFF then '\\' :: 'u' :: hexDigits 4 n
      else '\\' :: 'U' :: hexDigits 8 n

/-- A text in double quotes. -/
def double (cs : List Char) : List Char := '"' :: cs.flatMap doubleChar ++ ['"']

/-- How a literal block is announced: whether it starts with a blank, and how it ends. -/
def literalHeader (cs : List Char) : List Char :=
  let start := if cs.head?.any fun c => isSpace c || isBreak c then ['2'] else []
  let ending := match cs.reverse with
    | [] => ['-']
    | last :: before =>
      if !isBreak last then ['-']
      else if before.isEmpty || before.head?.any isBreak then ['+']
      else []
  '|' :: start ++ ending

/-- A literal block; its last line ends where the text ends with a break. -/
def literal (indent : Nat) (cs : List Char) : List Char :=
  literalHeader cs ++ '\n' :: indentLines indent true cs

/-- A text that is not a literal block. -/
def inlineText (indent : Nat) (s : String) : List Char :=
  let cs := s.toList
  if isPlainText s && allowsPlain cs then cs
  else if allowsSingle cs then single indent cs
  else double cs

/-- A text up to the end of its last line. -/
def textLines (indent : Nat) (s : String) : List Char :=
  let cs := s.toList
  if !cs.contains '\n' then inlineText indent s ++ ['\n']
  else if allowsLiteral cs then
    literal indent cs ++ if cs.getLast?.any isBreak then [] else ['\n']
  else double cs ++ ['\n']

/-! ## Trees -/

/-- A key. -/
def keyText (indent : Nat) : Key → List Char
  | .name s => if s.toList.any isBreak then double s.toList else inlineText indent s
  | .position n => Number.digits n
  | .other => "null".toList

/-- A whole number. -/
def integerText (n : Int) : List Char :=
  if n < 0 then '-' :: Number.digits n.natAbs else Number.digits n.natAbs

/-- A decimal. -/
def decimalText (x : Float) : List Char :=
  match Number.documentText x with
  | some s => s.toList
  | none => if x.isNaN then ".nan".toList else if x < 0 then "-.inf".toList else ".inf".toList

mutual
/-- What follows the colon of a key at an indentation. -/
def afterKey (indent : Nat) : Datum → List Char
  | .list (d :: rest) => '\n' :: spaces indent ++ itemLines indent (d :: rest)
  | .table (e :: rest) =>
    '\n' :: spaces (indent + 2) ++ entryLines (indent + 2) (e :: rest)
  | d => ' ' :: scalarLines (indent + 2) d

/-- What follows the hyphen of an item at an indentation. -/
def afterHyphen (indent : Nat) : Datum → List Char
  | .list (d :: rest) => ' ' :: itemLines (indent + 2) (d :: rest)
  | .table (e :: rest) => ' ' :: entryLines (indent + 2) (e :: rest)
  | d => ' ' :: scalarLines (indent + 2) d

/-- A tree on one line, or a text. -/
def scalarLines (indent : Nat) : Datum → List Char
  | .null => "null\n".toList
  | .boolean b => (if b then "true\n" else "false\n").toList
  | .natural n => integerText n ++ ['\n']
  | .negative n => integerText (-n) ++ ['\n']
  | .decimal x => decimalText x ++ ['\n']
  | .text s => textLines indent s
  | .list _ => "[]\n".toList
  | .table _ => "\x7b\x7d\n".toList

/-- Items at an indentation; the first one is where the line already is. -/
def itemLines (indent : Nat) : List Datum → List Char
  | [] => []
  | [d] => '-' :: afterHyphen indent d
  | d :: rest => '-' :: afterHyphen indent d ++ spaces indent ++ itemLines indent rest

/-- Entries at an indentation; the first one is where the line already is. -/
def entryLines (indent : Nat) : List (Key × Datum) → List Char
  | [] => []
  | [(key, d)] => keyText indent key ++ ':' :: afterKey indent d
  | (key, d) :: rest =>
    keyText indent key ++ ':' :: afterKey indent d ++ spaces indent ++ entryLines indent rest
end

/-- The document of a data tree. -/
def print (d : Datum) : String :=
  match d with
  | .list (d :: rest) => String.ofList (itemLines 0 (d :: rest))
  | .table (e :: rest) => String.ofList (entryLines 0 (e :: rest))
  | d => String.ofList (scalarLines 0 d)

end Remap.Yaml
