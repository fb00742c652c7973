import Remap.Convert.Transform
import Remap.Datum.Basic

/-!
# Transforms as data

A transform is a table whose entry `op` says which one it is; the other entries are its settings.
A list is read as well, the word first and then the settings in order.
-/

namespace Remap.Transform

/-- A text that may be missing, written as null. -/
def optionalDatum : Option String → Datum
  | none => .null
  | some s => .text s

/-- A table of transform settings. -/
def settings (op : String) (entries : List (String × Datum)) : Datum :=
  .table ((Key.name "op", .text op) :: entries.map fun (name, d) => (Key.name name, d))

mutual
/-- A transform as data. -/
def encode : Transform → Datum
  | .uppercase => settings "uppercase" []
  | .lowercase => settings "lowercase" []
  | .trim => settings "trim" []
  | .defaultTo value => settings "default" [("value", .text value)]
  | .numberFormat decimals separator =>
    settings "number_format"
      [("decimals", .natural decimals.toNat), ("thousands_sep", optionalDatum separator)]
  | .split delimiter index =>
    settings "split" [("delimiter", .text delimiter), ("index", .natural index.toNat)]
  | .concatenate separator => settings "concatenate" [("separator", optionalDatum separator)]
  | .chain transforms => settings "chain" [("transforms", .list (encodeAll transforms))]

/-- Transforms as data. -/
def encodeAll : List Transform → List Datum
  | [] => []
  | t :: rest => encode t :: encodeAll rest
end

/-- The words for the transforms. -/
def words : List String :=
  ["uppercase", "lowercase", "trim", "default", "number_format", "split", "concatenate", "chain"]

/-- A count that is below a limit. -/
def boundedCount? (limit : Nat) (d : Datum) : Option Nat := do
  let n ← d.count?
  if n < limit then some n else none

/-- A transform without settings: a table may hold anything, a list nothing more. -/
def bare (t : Transform) : Datum → Option Transform
  | .table _ => some t
  | .list [] => some t
  | _ => none

/-- A text that may be missing or null. -/
def optionalText : Option Datum → Option (Option String)
  | none => some none
  | some .null => some none
  | some d => d.text?.map some

/-- The transform of a word, other than a chain, with its settings. -/
def decodePlain (word : Nat) (d : Datum) : Option Transform :=
  match word with
  | 0 => bare .uppercase d
  | 1 => bare .lowercase d
  | 2 => bare .trim d
  | 3 =>
    match d.slots? ["value"] with
    | some [some value] => do return .defaultTo (← value.text?)
    | _ => none
  | 4 =>
    match d.slots? ["decimals", "thousands_sep"] with
    | some [some decimals, separator] => do
      let decimals ← boundedCount? (Nat.pow 2 32) decimals
      let separator ← optionalText separator
      return .numberFormat (.ofNat decimals) separator
    | _ => none
  | 5 =>
    match d.slots? ["delimiter", "index"] with
    | some [some delimiter, some index] => do
      let delimiter ← delimiter.text?
      let index ← boundedCount? (Nat.pow 2 64) index
      return .split delimiter (.ofNat index)
    | _ => none
  | 6 =>
    match d.slots? ["separator"] with
    | some [separator] => do return .concatenate (← optionalText separator)
    | _ => none
  | _ => none

/-- The position of the word for a chain. -/
def chainWord : Nat := 7

mutual
/-- The transform that data stand for. -/
def decode (lenient : Bool) : Datum → Option Transform
  | .table entries => do
    let tag ← Datum.single? "op" entries
    let word ← tag.tagChoice? lenient words
    let rest := Datum.table (Datum.without "op" entries)
    if word = chainWord then
      let _ ← rest.slots? ["transforms"]
      return .chain (← decodeNamed entries)
    else decodePlain word rest
  | .list (tag :: items) => do
    let word ← tag.tagChoice? lenient words
    if word = chainWord then
      let _ ← (Datum.list items).slots? ["transforms"]
      return .chain (← decodeFirst items)
    else decodePlain word (.list items)
  | _ => none

/-- The links of a chain in a table. -/
def decodeNamed : List (Key × Datum) → Option (List Transform)
  | [] => none
  | (key, d) :: rest => if key.stands "transforms" 0 then decodeLinks d else decodeNamed rest

/-- The links of a chain in a list. -/
def decodeFirst : List Datum → Option (List Transform)
  | [] => none
  | d :: _ => decodeLinks d

/-- The links of a chain. -/
def decodeLinks : Datum → Option (List Transform)
  | .list items => decodeAll items
  | _ => none

/-- Transforms one after the other. -/
def decodeAll : List Datum → Option (List Transform)
  | [] => some []
  | d :: rest => do
    let t ← decode true d
    let ts ← decodeAll rest
    return t :: ts
end

end Remap.Transform
