import Remap.Yaml.Scalar

/-!
# Tags

A tag is a list of bytes: its characters are those of ASCII, and an escape can write any byte that
has a place in a character of several bytes, so that the bytes need not be a text. A zero byte ends
a tag. It is written as a handle and a rest, or in full between angle brackets.
-/

namespace Remap.Yaml

/-- The bytes of a tag. -/
abbrev Tag := List UInt8

namespace Tag

/-- The tag of a text. -/
def ofText (s : String) : Tag := s.toUTF8.toList

/-- The full form of a common tag. -/
def common (name : String) : Tag := ofText ("tag:yaml.org,2002:" ++ name)

/-- What counts of some bytes: those in front of the first zero. -/
def ofBytes (bytes : List UInt8) : Tag := bytes.takeWhile (· != 0)

/-- The name of a tag of one's own, which starts with an exclamation mark; bytes that are no text
are no name. -/
def ownName? : Tag → Option String
  | 0x21 :: bytes => String.fromUTF8? ⟨bytes.toArray⟩
  | _ => none

end Tag

/-- A byte of ASCII. -/
def asciiByte (c : Char) : UInt8 := UInt8.ofNat c.toNat

/-- The handle of a tag: exclamation marks around a name, or a single one. -/
def readHandle (directive : Bool) (p : Place) : Option (List Char × Place) :=
  if !p.sees '!' then none
  else
    let (name, p) := (p.skip 1).takeWhile isWord
    if p.sees '!' then some ('!' :: name ++ ['!'], p.skip 1)
    else if directive && !name.isEmpty then none
    else some ('!' :: name, p)

/-- A character of a tag; inside angle brackets there are more of them. -/
def isTagChar (bracketed : Bool) (c : Char) : Bool :=
  isWord c || ";/?:@&=+$.%!~*'()".toList.contains c || (bracketed && ",[]".toList.contains c)

/-- The number of bytes in a character with this first byte. -/
def byteCount? (b : Nat) : Option Nat :=
  if b < 0x80 then some 1
  else if 0xC0 ≤ b && b < 0xE0 then some 2
  else if 0xE0 ≤ b && b < 0xF0 then some 3
  else if 0xF0 ≤ b && b < 0xF8 then some 4
  else none

/-- A byte written as a percent sign and two hexadecimal digits. -/
def escapedByte? : List Char → Option (Nat × List Char)
  | '%' :: a :: b :: rest => do
    let a ← hexValue? a
    let b ← hexValue? b
    return (16 * a + b, rest)
  | _ => none

/-- Some more bytes of a character. -/
def moreBytes? : (count : Nat) → List Char → Option (List UInt8 × List Char)
  | 0, cs => some ([], cs)
  | count + 1, cs => do
    let (b, rest) ← escapedByte? cs
    if 0x80 ≤ b && b < 0xC0 then
      let (bytes, rest) ← moreBytes? count rest
      return (UInt8.ofNat b :: bytes, rest)
    else none

/-- The escaped bytes of one character. The first one says how many there are; the character need
not be one that exists. -/
def escapedBytes? (cs : List Char) : Option (List UInt8 × List Char) := do
  let (b, rest) ← escapedByte? cs
  let count ← byteCount? b
  let (bytes, rest) ← moreBytes? (count - 1) rest
  return (UInt8.ofNat b :: bytes, rest)

/-- The bytes of a tag. -/
def tagBytes (bracketed : Bool) : (fuel : Nat) → List Char → Option (List UInt8 × List Char)
  | 0, _ => none
  | fuel + 1, cs =>
    match cs with
    | [] => some ([], [])
    | '%' :: _ => do
      let (first, rest) ← escapedBytes? cs
      let (bytes, rest) ← tagBytes bracketed fuel rest
      return (first ++ bytes, rest)
    | c :: rest =>
      if isTagChar bracketed c then do
        let (bytes, rest) ← tagBytes bracketed fuel rest
        return (asciiByte c :: bytes, rest)
      else some ([], cs)

/-- The bytes of a tag at a place. -/
def readTagBytes (bracketed : Bool) (p : Place) : Option (List UInt8 × Place) := do
  let (bytes, rest) ← tagBytes bracketed (p.rest.length + 1) p.rest
  return (bytes, p.skip (p.rest.length - rest.length))

/-- A tag: its handle, which is empty where the tag is in full, and the rest of it. -/
def readTag (inFlow : Bool) (p : Place) : Option ((String × Tag) × Place) := do
  let (t, p) ←
    if p.peekAt 1 == some '<' then do
      let (bytes, p) ← readTagBytes true (p.skip 2)
      if bytes.isEmpty || !p.sees '>' then none
      else some (("", Tag.ofBytes bytes), p.skip 1)
    else do
      let (handle, p) ← readHandle false p
      let (bytes, p) ← readTagBytes false p
      if 1 < handle.length && handle.getLast? == some '!' then
        if bytes.isEmpty then none else some ((String.ofList handle, Tag.ofBytes bytes), p)
      else
        let rest := Tag.ofBytes (handle.tail.map asciiByte ++ bytes)
        if rest.isEmpty then some (("", Tag.ofText "!"), p) else some (("!", rest), p)
  if isGap p.peek || (inFlow && p.sees ',') then some (t, p) else none

/-- Handles of tags and what they stand for. -/
abbrev Handles := List (String × Tag)

/-- A tag in full. -/
def Handles.resolve? (handles : Handles) (handle : String) (rest : Tag) : Option Tag :=
  if handle.isEmpty then some rest
  else
    match handles.find? fun entry => entry.1 == handle with
    | some (_, start) => some (start ++ rest)
    | none =>
      if handle == "!" then some (Tag.ofText "!" ++ rest)
      else if handle == "!!" then some (Tag.common "" ++ rest)
      else none

end Remap.Yaml
