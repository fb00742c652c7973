import Remap.Json.Basic

/-!
# Printing data documents

The indented form: two spaces for each level, one item or member on a line, nothing inside an
empty array or object. Text is quoted with the short escapes where there is one.
-/

namespace Remap.Json

/-- A hexadecimal digit. -/
def hexDigit (n : Nat) : Char :=
  if n < 10 then Char.ofNat (48 + n) else Char.ofNat (87 + n)

/-- A character inside quotes. -/
def escapeChar (c : Char) : List Char :=
  if c == '"' then ['\\', '"']
  else if c == '\\' then ['\\', '\\']
  else if c == '\n' then ['\\', 'n']
  else if c == '\r' then ['\\', 'r']
  else if c == '\t' then ['\\', 't']
  else if c.toNat == 8 then ['\\', 'b']
  else if c.toNat == 12 then ['\\', 'f']
  else if c.toNat < 32 then
    ['\\', 'u', '0', '0', hexDigit (c.toNat / 16), hexDigit (c.toNat % 16)]
  else [c]

/-- A text in quotes. -/
def quoted (s : String) : String :=
  String.ofList ('"' :: s.toList.flatMap escapeChar ++ ['"'])

/-- The blanks that a line of a level starts with. -/
def indentation (level : Nat) : String := String.ofList (List.replicate (2 * level) ' ')

/-- Parts on lines of their own between brackets. -/
def block (level : Nat) (opening closing : String) (parts : List String) : String :=
  if parts.isEmpty then opening ++ closing
  else
    opening ++ "\n" ++
      ",\n".intercalate (parts.map fun p => indentation (level + 1) ++ p) ++
      "\n" ++ indentation level ++ closing

mutual
/-- A document whose first line stands at a level. -/
def prettyAt : (level : Nat) → Json → String
  | _, .null => "null"
  | _, .boolean b => if b then "true" else "false"
  | _, .integer n => if n < 0 then "-" ++ String.ofList (Number.digits n.natAbs)
      else String.ofList (Number.digits n.natAbs)
  | _, .float x => (Number.documentText x).getD "null"
  | _, .string s => quoted s
  | level, .array items => block level "[" "]" (prettyItems (level + 1) items)
  | level, .object members => block level "\x7b" "\x7d" (prettyMembers (level + 1) members)

/-- The items of an array. -/
def prettyItems : (level : Nat) → List Json → List String
  | _, [] => []
  | level, j :: rest => prettyAt level j :: prettyItems level rest

/-- The members of an object. -/
def prettyMembers : (level : Nat) → List (String × Json) → List String
  | _, [] => []
  | level, (name, j) :: rest =>
    (quoted name ++ ": " ++ prettyAt level j) :: prettyMembers level rest
end

/-- The indented form of a document. -/
def pretty (j : Json) : String := prettyAt 0 j

end Remap.Json
