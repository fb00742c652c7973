import Remap.Regex.Engine
import Remap.Regex.Program
import Remap.Regex.Property
import Remap.Text.Blank

/-!
# Reading patterns

The pattern language: literals, classes with set operations, groups, alternation, repetition,
flags that hold up to the end of their group, and conditions on places. Patterns with
look-around, with back references or nested too deeply, and patterns whose compiled form would
take too much room, are refused.
-/

namespace Remap.Regex

/-- What a part of a pattern means besides its characters. -/
structure Flags where
  ignoreCase : Bool := false
  multiLine : Bool := false
  dotAll : Bool := false
  swapGreed : Bool := false
  unicode : Bool := true
  anyLine : Bool := false
  ignoreSpace : Bool := false
  deriving DecidableEq, Repr

/-- The rest of a comment, without its line end. -/
def skipComment : List Char → List Char
  | [] => []
  | c :: cs => if c == '\n' then cs else skipComment cs

theorem length_skipComment (cs : List Char) : (skipComment cs).length ≤ cs.length := by
  fun_induction skipComment cs with
  | case1 => simp
  | case2 => simp
  | case3 c cs h ih => simp; omega

/-- The text after blanks and comments. -/
def skipIgnored (cs : List Char) : List Char :=
  match cs with
  | [] => []
  | c :: rest =>
    if Text.isBlank c then skipIgnored rest
    else if c == '#' then skipIgnored (skipComment rest)
    else c :: rest
termination_by cs.length
decreasing_by
  · simp
  · have := length_skipComment rest; simp; omega

/-- The text after what the flags let a reader skip. -/
def skip (flags : Flags) (cs : List Char) : List Char :=
  if flags.ignoreSpace then skipIgnored cs else cs

/-- A set with case ignored if the flags say so. -/
def foldSet (flags : Flags) (s : CharSet) : CharSet :=
  if flags.ignoreCase then (if flags.unicode then s.fold else s.foldAscii) else s

/-- A set as the flags mean it: case first, negation last. Without Unicode a set stays within
ASCII, so that none can be negated. -/
def finishSet (flags : Flags) (negated : Bool) (s : CharSet) : Option CharSet :=
  let s := foldSet flags s
  if !negated then some s else if flags.unicode then some s.compl else none

/-- What an escape stands for. -/
inductive Escape
  /-- A character; `byte` says it was written as two hexadecimal digits. -/
  | literal (n : Nat) (byte : Bool)
  | set (s : CharSet)
  | look (l : Look)

/-- The value of a hexadecimal digit. -/
def hexValue? (c : Char) : Option Nat :=
  if c.isDigit then some (c.toNat - 48)
  else if 'a' ≤ c && c ≤ 'f' then some (c.toNat - 87)
  else if 'A' ≤ c && c ≤ 'F' then some (c.toNat - 55)
  else none

/-- A code point that is a character. -/
def isScalar (n : Nat) : Bool := n < 0xD800 || (0xDFFF < n && n ≤ 0x10FFFF)

/-- A fixed count of hexadecimal digits. -/
def readHexDigits (flags : Flags) : Nat → Nat → List Char → Option (Nat × List Char)
  | 0, n, cs => some (n, cs)
  | count + 1, n, cs =>
    match cs with
    | [] => none
    | c :: rest =>
      match hexValue? c with
      | none => none
      | some d => readHexDigits flags count (16 * n + d) (skip flags rest)

/-- Hexadecimal digits up to a closing brace, at least one. -/
def readHexBraced (flags : Flags) : (fuel : Nat) → (got : Option Nat) → List Char →
    Option (Nat × List Char)
  | 0, _, _ => none
  | fuel + 1, got, cs =>
    match skip flags cs with
    | [] => none
    | '\x7d' :: rest => got.map (·, skip flags rest)
    | c :: rest =>
      match hexValue? c with
      | none => none
      | some d => readHexBraced flags fuel (some (16 * got.getD 0 + d)) rest

/-- A character written by its code point; `digits` is the count without braces. -/
def readHex (flags : Flags) (digits : Nat) (cs : List Char) : Option (Escape × List Char) :=
  match skip flags cs with
  | [] => none
  | '\x7b' :: rest => do
    let (n, rest) ← readHexBraced flags (rest.length + 1) none rest
    if isScalar n then some (.literal n false, rest) else none
  | cs => do
    let (n, rest) ← readHexDigits flags digits 0 cs
    if isScalar n then some (.literal n (digits == 2), rest) else none

/-- The characters up to a closing brace. -/
def readBraced (flags : Flags) : (fuel : Nat) → List Char → List Char →
    Option (String × List Char)
  | 0, _, _ => none
  | fuel + 1, got, cs =>
    match skip flags cs with
    | [] => none
    | '\x7d' :: rest => some (String.ofList got.reverse, rest)
    | c :: rest => readBraced flags fuel (c :: got) rest

/-- A text split at the first occurrence of a separator. -/
def splitAt? (separator : List Char) : List Char → Option (List Char × List Char)
  | [] => none
  | c :: cs =>
    if separator.isPrefixOf (c :: cs) then some ([], (c :: cs).drop separator.length)
    else (splitAt? separator cs).map fun (a, b) => (c :: a, b)

/-- The set that a property in braces names, and whether the name says that it is negated. -/
def bracedProperty (text : String) : Option (CharSet × Bool) :=
  let cs := text.toList
  match splitAt? ['!', '='] cs with
  | some (name, value) => (valueSet? (String.ofList name) (String.ofList value)).map (·, true)
  | none =>
    match (splitAt? [':'] cs).orElse fun _ => splitAt? ['='] cs with
    | some (name, value) => (valueSet? (String.ofList name) (String.ofList value)).map (·, false)
    | none => (propertySet? text).map (·, false)

/-- The set that a property names after its letter, and whether the name says that it is
negated. -/
def readPropertyName (flags : Flags) (cs : List Char) : Option ((CharSet × Bool) × List Char) :=
  match skip flags cs with
  | [] => none
  | '\x7b' :: rest => do
    let (text, rest) ← readBraced flags (rest.length + 1) [] rest
    let property ← bracedProperty text
    some (property, rest)
  | c :: rest =>
    if c == '\\' then none
    else do
      let s ← propertySet? (String.ofList [c])
      some ((s, false), skip flags rest)

/-- A character property after its letter. -/
def readProperty (flags : Flags) (negated : Bool) (cs : List Char) :
    Option (Escape × List Char) := do
  let ((s, unlike), rest) ← readPropertyName flags cs
  if flags.unicode then
    let s ← finishSet flags (negated != unlike) s
    some (.set s, rest)
  else none

/-- A class that has a letter of its own. -/
def letterClass (flags : Flags) (letter : Char) : Option CharSet :=
  let pick (wide narrow : CharSet) := if flags.unicode then wide else narrow
  let other (wide : CharSet) := if flags.unicode then some wide.compl else none
  match letter with
  | 'd' => some (pick .digit .asciiDigit)
  | 's' => some (pick .blank .asciiBlank)
  | 'w' => some (pick .word .asciiWord)
  | 'D' => other .digit
  | 'S' => other .blank
  | 'W' => other .word
  | _ => none

/-- A letter or a hyphen, as the names of word conditions are made of. -/
def isConditionChar (c : Char) : Bool := c.isAlpha || c == '-'

/-- The name of a word condition up to its closing brace. -/
def readConditionName (flags : Flags) : (fuel : Nat) → List Char → List Char →
    Option (String × List Char)
  | 0, _, _ => none
  | fuel + 1, got, cs =>
    match cs with
    | '\x7d' :: rest => some (String.ofList got.reverse, rest)
    | c :: rest =>
      if isConditionChar c then readConditionName flags fuel (c :: got) (skip flags rest) else none
    | [] => none

/-- The condition after `\b`: a word boundary, or a condition named in braces. -/
def readWordCondition (flags : Flags) (cs : List Char) : Option (Escape × List Char) :=
  let ascii := !flags.unicode
  match cs with
  | '\x7b' :: rest =>
    match skip flags rest with
    | [] => none
    | c :: more =>
      if isConditionChar c then do
        let (name, rest) ← readConditionName flags (more.length + 2) [] (c :: more)
        match name with
        | "start" => some (.look (.wordStart ascii), rest)
        | "end" => some (.look (.wordEnd ascii), rest)
        | "start-half" => some (.look (.wordStartHalf ascii), rest)
        | "end-half" => some (.look (.wordEndHalf ascii), rest)
        | _ => none
      else some (.look (.wordBoundary ascii), cs)
  | _ => some (.look (.wordBoundary ascii), cs)

/-- An escape after its backslash. -/
def readEscape (flags : Flags) : List Char → Option (Escape × List Char)
  | [] => none
  | c :: rest =>
    let literal (n : Nat) : Option (Escape × List Char) := some (.literal n false, rest)
    if c.isDigit then none
    else if c == 'x' then readHex flags 2 rest
    else if c == 'u' then readHex flags 4 rest
    else if c == 'U' then readHex flags 8 rest
    else if c == 'p' || c == 'P' then readProperty flags (c == 'P') rest
    else match letterClass flags c with
    | some s => some (.set s, rest)
    | none =>
      match c with
      | 'a' => literal 7
      | 'f' => literal 12
      | 't' => literal 9
      | 'n' => literal 10
      | 'r' => literal 13
      | 'v' => literal 11
      | 'A' => some (.look .textStart, rest)
      | 'z' => some (.look .textEnd, rest)
      | 'b' => readWordCondition flags rest
      | 'B' => some (.look (.notWordBoundary (!flags.unicode)), rest)
      | '<' => some (.look (.wordStart (!flags.unicode)), rest)
      | '>' => some (.look (.wordEnd (!flags.unicode)), rest)
      | c => if c.toNat < 128 && !c.isAlphanum then literal c.toNat else none

/-- One character as a pattern. Without Unicode a character outside ASCII has no other case, and a
byte outside ASCII is refused. -/
def literalNode (flags : Flags) (n : Nat) (byte : Bool) : Option Node :=
  if flags.unicode || n < 128 then
    some (Node.ofSet (!flags.unicode) (foldSet flags (CharSet.single n)))
  else if byte then none
  else some (.literal [Char.ofNat n])

/-- A literal inside brackets as the bound of a range. -/
def literalBound (flags : Flags) (n : Nat) : Option Nat :=
  if flags.unicode || n < 128 then some n else none

/-- The two ways sets in brackets are joined besides union, and the difference both ways. -/
inductive SetOperator
  | intersection | difference | symmetricDifference
  deriving DecidableEq, Repr

/-- A set that is being read, with the depth of its brackets. -/
structure SetPart where
  set : CharSet
  depth : Nat

/-- Several parts side by side. -/
def unionParts : List SetPart → SetPart
  | [] => ⟨[], 0⟩
  | [part] => part
  | parts => ⟨Text.Ranges.unions (parts.map (·.set)), 1 + (parts.map (·.depth)).foldl max 0⟩

/-- The operator applied to what stands before it, if there is one. -/
def applyOperator (flags : Flags) (left : Option (SetOperator × SetPart)) (right : SetPart) :
    SetPart :=
  match left with
  | none => right
  | some (operator, left) =>
    let a := foldSet flags left.set
    let b := foldSet flags right.set
    let s := match operator with
      | .intersection => a.inter b
      | .difference => a.diff b
      | .symmetricDifference => a.symmDiff b
    ⟨s, 1 + max left.depth right.depth⟩

/-- The class that a name stands for, up to a colon and a bracket. -/
def readSetName (cs : List Char) : Option (CharSet × List Char) :=
  match cs.dropWhile (· != ':') with
  | ':' :: ']' :: rest => do
    let s ← CharSet.named? (String.ofList (cs.takeWhile (· != ':')))
    some (s, rest)
  | _ => none

/-- A class named between brackets and colons, if there is one, and whether it is negated. -/
def readNamedSet : List Char → Option (CharSet × Bool × List Char)
  | ':' :: '^' :: rest => do
    let (s, rest) ← readSetName rest
    some (s, true, rest)
  | ':' :: rest => do
    let (s, rest) ← readSetName rest
    some (s, false, rest)
  | _ => none

/-- One item inside brackets: a literal or an escape. -/
def readSetItem (flags : Flags) : List Char → Option (Escape × List Char)
  | [] => none
  | '\\' :: rest => readEscape flags rest
  | c :: rest => some (.literal c.toNat false, rest)

/-- The next character that counts after the current one. -/
def peekAfter (flags : Flags) (rest : List Char) : Option Char :=
  if flags.ignoreSpace then
    match rest.dropWhile Text.isBlank with
    | '#' :: rest => (rest.dropWhile Text.isBlank).head?
    | cs => cs.head?
  else rest.head?

/-- A literal or a class escape as a part of a set. -/
def partOf? (flags : Flags) : Escape → Option SetPart
  | .literal n _ => (literalBound flags n).map fun n => ⟨CharSet.single n, 0⟩
  | .set s => some ⟨s, 0⟩
  | .look _ => none

/-- The range from a literal to another one. -/
def rangeOf? (flags : Flags) : Escape → Escape → Option SetPart
  | .literal lo _, .literal hi _ => do
    let lo ← literalBound flags lo
    let hi ← literalBound flags hi
    if lo ≤ hi then some ⟨[(lo, hi)], 0⟩ else none
  | _, _ => none

/-- A literal, a class escape or a range inside brackets. A hyphen before a bracket or a hyphen is
no range. -/
def readSetRange (flags : Flags) (cs : List Char) : Option (SetPart × List Char) := do
  let (first, rest) ← readSetItem flags cs
  match skip flags rest with
  | [] => none
  | '-' :: more =>
    if peekAfter flags more == some ']' || peekAfter flags more == some '-' then
      let part ← partOf? flags first
      some (part, '-' :: more)
    else
      let (second, rest) ← readSetItem flags (skip flags more)
      let part ← rangeOf? flags first second
      some (part, rest)
  | rest =>
    let part ← partOf? flags first
    some (part, rest)

/-- The hyphens that open a class are literals. -/
def takeHyphens (flags : Flags) : (fuel : Nat) → List SetPart → List Char →
    Option (List SetPart × List Char)
  | 0, _, _ => none
  | fuel + 1, got, cs =>
    match cs with
    | [] => none
    | '-' :: rest => takeHyphens flags fuel (⟨CharSet.single 45, 0⟩ :: got) (skip flags rest)
    | cs => some (got, cs)

/-- Whether a caret comes next, and what follows it. -/
def readNegation (flags : Flags) : List Char → Bool × List Char
  | '^' :: rest => (true, skip flags rest)
  | cs => (false, cs)

/-- What follows an opening bracket: a negation, hyphens, and a closing bracket as a literal. -/
def readSetOpening (flags : Flags) (cs : List Char) : Option (Bool × List SetPart × List Char) := do
  let (negated, cs) := readNegation flags (skip flags cs)
  let (parts, cs) ← takeHyphens flags (cs.length + 1) [] cs
  match parts, cs with
  | [], ']' :: rest =>
    match skip flags rest with
    | [] => none
    | rest => some (negated, [⟨CharSet.single 93, 0⟩], rest)
  | parts, cs => some (negated, parts, cs)

/-- A class in brackets after its opening. -/
def readSetBody (flags : Flags) : (fuel : Nat) → (negated : Bool) →
    (left : Option (SetOperator × SetPart)) → (parts : List SetPart) → List Char →
    Option (SetPart × List Char)
  | 0, _, _, _, _ => none
  | fuel + 1, negated, left, parts, cs =>
    let operate (operator : SetOperator) (rest : List Char) :=
      readSetBody flags fuel negated
        (some (operator, applyOperator flags left (unionParts parts.reverse))) [] rest
    match skip flags cs with
    | [] => none
    | '[' :: rest =>
      match readNamedSet rest with
      | some (s, without, rest) =>
        match finishSet flags without s with
        | none => none
        | some s => readSetBody flags fuel negated left (⟨s, 0⟩ :: parts) rest
      | none =>
        match readSetOpening flags rest with
        | none => none
        | some (innerNegated, innerParts, rest) =>
          match readSetBody flags fuel innerNegated none innerParts rest with
          | none => none
          | some (part, rest) => readSetBody flags fuel negated left (part :: parts) rest
    | ']' :: rest =>
      let whole := applyOperator flags left (unionParts parts.reverse)
      (finishSet flags negated whole.set).map fun s => (⟨s, 1 + whole.depth⟩, rest)
    | '&' :: '&' :: rest => operate .intersection rest
    | '-' :: '-' :: rest => operate .difference rest
    | '~' :: '~' :: rest => operate .symmetricDifference rest
    | cs =>
      match readSetRange flags cs with
      | none => none
      | some (part, rest) => readSetBody flags fuel negated left (part :: parts) rest

/-- A part of a pattern: its meaning, the depth of its tree, and whether it can be repeated. -/
structure Piece where
  node : Node
  depth : Nat
  repeatable : Bool := true

/-- The depth of a tree over others. -/
def depthOver (pieces : List Piece) : Nat := 1 + (pieces.map (·.depth)).foldl max 0

/-- Parts one after the other. -/
def sequence : List Piece → Piece
  | [] => ⟨.empty, 0, true⟩
  | [piece] => { piece with repeatable := true }
  | pieces => ⟨Node.concat (pieces.map (·.node)), depthOver pieces, true⟩

/-- Branches beside each other; a single branch is itself. -/
def alternatives : List Piece → Piece
  | [] => ⟨.empty, 0, true⟩
  | [piece] => piece
  | pieces => ⟨Node.oneOf (pieces.map (·.node)), depthOver pieces, true⟩

/-- Decimal digits, the last one first, and what follows them. -/
def readDigits (flags : Flags) : (fuel : Nat) → List Char → List Char → List Char × List Char
  | 0, got, cs => (got, cs)
  | fuel + 1, got, cs =>
    match cs with
    | c :: rest =>
      if c.isDigit then readDigits flags fuel (c :: got) (skip flags rest) else (got, cs)
    | [] => (got, [])

/-- A whole number in a repetition, blanks around it allowed. -/
def readCount (flags : Flags) (cs : List Char) : Option (Option Nat × List Char) :=
  let cs := cs.dropWhile Text.isBlank
  let (got, rest) := readDigits flags (cs.length + 1) [] cs
  let rest := skip flags (rest.dropWhile Text.isBlank)
  if got.isEmpty then some (none, rest)
  else
    let n := got.reverse.foldl (fun n c => 10 * n + (c.toNat - 48)) 0
    if n < Nat.pow 2 32 then some (some n, rest) else none

/-- The bounds of a counted repetition after its opening brace. -/
def readBounds (flags : Flags) (cs : List Char) : Option (Nat × Option Nat × List Char) := do
  let (first, rest) ← readCount flags (skip flags cs)
  let least ← first
  match rest with
  | ',' :: rest =>
    match skip flags rest with
    | '\x7d' :: rest => some (least, none, skip flags rest)
    | rest =>
      let (second, rest) ← readCount flags rest
      let most ← second
      match rest with
      | '\x7d' :: rest => if least ≤ most then some (least, some most, skip flags rest) else none
      | _ => none
  | '\x7d' :: rest => some (least, some least, skip flags rest)
  | _ => none

/-- A part repeated. -/
def repeatPiece (piece : Piece) (least : Nat) (most : Option Nat) (greedy : Bool) : Piece :=
  ⟨piece.node.repetition least most greedy, 1 + piece.depth, true⟩

/-- The flag that a letter sets. -/
def setFlag (flags : Flags) (letter : Char) (on : Bool) : Option Flags :=
  match letter with
  | 'i' => some { flags with ignoreCase := on }
  | 'm' => some { flags with multiLine := on }
  | 's' => some { flags with dotAll := on }
  | 'U' => some { flags with swapGreed := on }
  | 'u' => some { flags with unicode := on }
  | 'R' => some { flags with anyLine := on }
  | 'x' => some { flags with ignoreSpace := on }
  | _ => none

/-- The letters of a flag group up to its end; no letter and no minus may come twice, and a minus
has to be followed by a letter. -/
def readFlags : (seen : List Char) → (on : Bool) → Flags → List Char →
    Option (Flags × List Char × List Char)
  | _, _, _, [] => none
  | seen, on, flags, c :: rest =>
    if c == ':' || c == ')' then
      if seen.head? == some '-' then none else some (flags, seen, c :: rest)
    else if seen.contains c then none
    else if c == '-' then readFlags (c :: seen) false flags rest
    else
      match setFlag flags c on with
      | some flags => readFlags (c :: seen) on flags rest
      | none => none

/-- A character that a group name can start with, or go on with. -/
def isGroupNameChar (first : Bool) (c : Char) : Bool :=
  if first then c == '_' || Text.isAlphabetic c
  else c == '_' || c == '.' || c == '[' || c == ']' || Text.isAlphanumeric c

/-- The name of a group up to its closing angle bracket. -/
def readGroupName (cs : List Char) : Option (String × List Char) :=
  let name := cs.takeWhile (· != '>')
  match cs.dropWhile (· != '>'), name with
  | '>' :: rest, first :: more =>
    if isGroupNameChar true first && more.all (isGroupNameChar false) then
      some (String.ofList name, rest)
    else none
  | _, _ => none

/-- How a group opens. -/
inductive Opening
  /-- Flags for the rest of the group around. -/
  | flags (flags : Flags)
  /-- A group that is there for its flags or for what it holds together. -/
  | plain (flags : Flags)
  /-- A numbered group and, if it has one, its name. -/
  | numbered (name : Option String)

/-- What follows an opening parenthesis. -/
def readOpening (flags : Flags) (cs : List Char) : Option (Opening × List Char) :=
  match skip flags cs with
  | '?' :: '=' :: _ | '?' :: '!' :: _ | '?' :: '<' :: '=' :: _ | '?' :: '<' :: '!' :: _ => none
  | '?' :: 'P' :: '<' :: rest | '?' :: '<' :: rest => do
    let (name, rest) ← readGroupName rest
    some (.numbered (some name), rest)
  | '?' :: rest => do
    let (inner, letters, rest) ← readFlags [] true flags rest
    match rest with
    | ')' :: rest => if letters.isEmpty then none else some (.flags inner, rest)
    | ':' :: rest => some (.plain inner, rest)
    | _ => none
  | rest => some (.numbered none, rest)

/-- A single character, place or class outside brackets, before its repetition. -/
def readPrimitive (flags : Flags) : List Char → Option (Node × List Char)
  | [] => none
  | '\\' :: rest => do
    let (escape, rest) ← readEscape flags rest
    match escape with
    | .literal n byte => (literalNode flags n byte).map (·, rest)
    | .set s => some (Node.ofSet (!flags.unicode) s, rest)
    | .look l => some (.look l, rest)
  | '.' :: rest =>
    if !flags.unicode then none
    else
      let s : CharSet :=
        if flags.dotAll then .all
        else if flags.anyLine then CharSet.all.diff [(10, 10), (13, 13)]
        else CharSet.all.diff [(10, 10)]
      some (.set false s, rest)
  | '^' :: rest =>
    some (.look (if !flags.multiLine then .textStart
      else if flags.anyLine then .anyLineStart else .lineStart), rest)
  | '$' :: rest =>
    some (.look (if !flags.multiLine then .textEnd
      else if flags.anyLine then .anyLineEnd else .lineEnd), rest)
  | c :: rest => (literalNode flags c.toNat false).map (·, rest)

/-- A reader's place in a group: the flags, the branches before, the parts of this branch (last
first), and the groups opened so far (last first), each with its name if it has one. -/
structure Place where
  flags : Flags
  branches : List Piece
  parts : List Piece
  groups : List (Option String)

/-- Where the reading of a pattern starts. -/
def Place.start : Place := ⟨{}, [], [], []⟩

/-- What a group holds when it ends. -/
def Place.finish (place : Place) : Piece :=
  alternatives (place.branches.reverse ++ [sequence place.parts.reverse])

/-- The place with one more part. -/
def Place.push (place : Place) (piece : Piece) : Place :=
  { place with parts := piece :: place.parts }

/-- The part before a repetition operator, and the place without it. -/
def Place.pop? (place : Place) : Option (Piece × Place) :=
  match place.parts with
  | piece :: rest => if piece.repeatable then some (piece, { place with parts := rest }) else none
  | [] => none

/-- Whether a repetition takes as much as it can, and what follows the mark that says so. -/
def readGreed (flags : Flags) : List Char → Bool × List Char
  | '?' :: rest => (flags.swapGreed, rest)
  | rest => (!flags.swapGreed, rest)

/-- The place with its last part repeated, and what follows. -/
def Place.repeated (place : Place) (least : Nat) (most : Option Nat) (cs : List Char) :
    Option (Place × List Char) := do
  let (piece, before) ← place.pop?
  let (greedy, rest) := readGreed place.flags cs
  some (before.push (repeatPiece piece least most greedy), rest)

/-- What a reader of a group gives: the group, the groups opened, and what follows. -/
abbrev GroupReader := Place → List Char → Option (Piece × List (Option String) × List Char)

/-- A part, a repetition of the part before, flags or the end of a branch: the place after it and
what follows. -/
def readPart (nested : GroupReader) (place : Place) : List Char → Option (Place × List Char)
  | '(' :: rest => do
    let (opening, rest) ← readOpening place.flags rest
    match opening with
    | .flags flags => some ({ place with flags := flags }.push ⟨.empty, 0, false⟩, rest)
    | .plain flags =>
      let (piece, groups, rest) ← nested ⟨flags, [], [], place.groups⟩ rest
      some ({ place with groups := groups }.push ⟨piece.node, 1 + piece.depth, true⟩, rest)
    | .numbered name =>
      if name.isSome && place.groups.contains name then none
      else
        let (piece, groups, rest) ← nested ⟨place.flags, [], [], name :: place.groups⟩ rest
        let node := Node.group (place.groups.length + 1) piece.node
        some ({ place with groups := groups }.push ⟨node, 1 + piece.depth, true⟩, rest)
  | '|' :: rest =>
    some ({ place with branches := sequence place.parts.reverse :: place.branches, parts := [] },
      rest)
  | '[' :: rest => do
    let (negated, parts, rest) ← readSetOpening place.flags rest
    let (part, rest) ← readSetBody place.flags (rest.length + 1) negated none parts rest
    some (place.push ⟨Node.ofSet (!place.flags.unicode) part.set, part.depth, true⟩, rest)
  | '?' :: rest => place.repeated 0 (some 1) rest
  | '*' :: rest => place.repeated 0 none rest
  | '+' :: rest => place.repeated 1 none rest
  | '\x7b' :: rest => do
    let (least, most, rest) ← readBounds place.flags rest
    place.repeated least most rest
  | cs => do
    let (node, rest) ← readPrimitive place.flags cs
    some (place.push ⟨node, 0, true⟩, rest)

/-- The rest of a group: its parts up to the closing parenthesis, or to the end of the pattern
for the outermost group; the groups opened, and what follows. -/
def readGroup : (fuel : Nat) → (inner : Bool) → GroupReader
  | 0, _, _, _ => none
  | fuel + 1, inner, place, cs =>
    match skip place.flags cs with
    | [] => if inner then none else some (place.finish, place.groups, [])
    | ')' :: rest => if inner then some (place.finish, place.groups, rest) else none
    | cs => do
      let (place, rest) ← readPart (readGroup fuel true) place cs
      readGroup fuel inner place rest

/-- The deepest tree that is accepted. -/
def nestLimit : Nat := 250

/-- What a text says by the grammar, however deep its tree is. -/
def readPiece? (source : String) : Option Piece :=
  (readGroup (2 * source.toList.length + 2) false .start source.toList).map (·.1)

/-- The pattern that a text stands for, whatever room it takes. -/
def pattern? (source : String) : Option Node := do
  let piece ← readPiece? source
  if nestLimit < piece.depth then none else some piece.node

/-- The sentence for a text that is no pattern. -/
def syntaxMessage : String := "regex parse error: not a pattern"

/-- The sentence for a pattern that takes too much room. -/
def sizeMessage : String := "Compiled regex exceeds size limit of 10485760 bytes."

/-- The pattern that a text stands for, if it does not take too much room. -/
def readPattern (source : String) : Except ReadError Regex :=
  match pattern? source with
  | none => .error (.invalid syntaxMessage)
  | some node =>
    if node.fits then .ok ⟨source, node.isMatch⟩ else .error (.tooLarge sizeMessage)

/-- The engine that reads this pattern language. -/
instance standard : Engine := ⟨readPattern⟩

end Remap.Regex
