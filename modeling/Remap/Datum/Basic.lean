/-!
# Data trees

The tree that definitions are written to and read from, whatever text form carries it: scalars,
lists, and tables of keys and contents.

`Form` says how the parts of a definition show in a tree. Readers of definitions are written
once for all forms.
-/

namespace Remap

/-- A key of a table. -/
inductive Key
  | name (s : String)
  /-- A whole number, which counts the fields of what is read. -/
  | position (n : Nat)
  /-- A key that can name no field. -/
  | other
  deriving DecidableEq, Repr, Inhabited

/-- A data tree. -/
inductive Datum
  | null
  | boolean (b : Bool)
  /-- A whole number without a minus sign. -/
  | natural (n : Nat)
  /-- A whole number with a minus sign, which counts nothing even where it is zero. -/
  | negative (n : Nat)
  | decimal (x : Float)
  | text (s : String)
  | list (items : List Datum)
  | table (entries : List (Key × Datum))
  deriving Inhabited

/-- The key stands for the field of a name and position. -/
def Key.stands (name : String) (position : Nat) : Key → Bool
  | .name s => s == name
  | .position n => n == position
  | .other => false

/-- How the parts of a definition show in a tree. The readers fail in `m` where a part is
malformed. -/
structure Form (m : Type → Type) (α : Type) where
  malformed : {β : Type} → m β
  text : α → m String
  flag : α → m Bool
  /-- A part that may be null. -/
  optional : α → m (Option α)
  items : α → m (List α)
  /-- The position of one of the given words. -/
  choice : List String → α → m Nat
  /-- The contents of the named fields, where there are any, each read in its own way. -/
  fields : {β : Type} → List (String × (α → m β)) → α → m (List (Option β))

namespace Form

variable {m : Type → Type} [Monad m] {α : Type} (f : Form m α)

/-- A text that may be null. -/
def optionalText (a : α) : m (Option String) := do
  match ← f.optional a with
  | none => return none
  | some b => return some (← f.text b)

/-- Items read one after the other. -/
def readItems {β : Type} (read : α → m β) : List α → m (List β)
  | [] => return []
  | a :: rest => do
    let b ← read a
    let bs ← readItems read rest
    return b :: bs

/-- A list. -/
def list {β : Type} (read : α → m β) (a : α) : m (List β) := do
  let items ← f.items a
  readItems read items

/-- One of several choices, written as a word. -/
def oneOf {β : Type} (choices : List (String × β)) (a : α) : m β := do
  let position ← f.choice (choices.map (·.1)) a
  match choices[position]? with
  | some choice => return choice.2
  | none => f.malformed

/-- How a named field shows: what its content changes in the value that is read. -/
abbrev Part (m : Type → Type) (α β : Type) := String × (α → m (β → β))

/-- A value with the changes of the fields that are there. -/
def changed {β : Type} (value : β) : List (Option (β → β)) → β
  | [] => value
  | none :: rest => changed value rest
  | some change :: rest => changed (change value) rest

end Form

/-- A form in which tagged choices show as data. -/
structure TaggedForm (m : Type → Type) (α : Type) extends Form m α where
  /-- The data of a choice whose tag, the content of a name, is one of the given words. -/
  tagged : String → List String → α → m Datum

namespace Datum

/-- A text. -/
def text? : Datum → Option String
  | .text s => some s
  | _ => none

/-- A truth value. -/
def flag? : Datum → Option Bool
  | .boolean b => some b
  | _ => none

/-- The data of a whole number. -/
def ofInt : Int → Datum
  | .ofNat n => .natural n
  | .negSucc n => .negative (n + 1)

/-- A whole number that is not below zero. -/
def count? : Datum → Option Nat
  | .natural n => some n
  | .negative 0 => some 0
  | _ => none

/-- A list. -/
def items? : Datum → Option (List Datum)
  | .list items => some items
  | _ => none

/-- Is it null, or an empty table where such a table counts as null? -/
def isBlank (lenient : Bool) : Datum → Bool
  | .null => true
  | .table [] => lenient
  | _ => false

/-- The position of the word that a key stands for. -/
def keyChoice? (words : List String) : Key → Option Nat
  | .name s => words.idxOf? s
  | .position n => if n < words.length then some n else none
  | .other => none

/-- A choice: a word, or a word with nothing under it. -/
def choice? (lenient : Bool) (words : List String) : Datum → Option Nat
  | .text s => words.idxOf? s
  | .table [(key, content)] => if content.isBlank lenient then keyChoice? words key else none
  | _ => none

/-- The entries of a table that stand for a field. -/
def standing (entries : List (Key × Datum)) (name : String) (position : Nat) :
    List (Key × Datum) :=
  entries.filter fun entry => entry.1.stands name position

/-- The contents of named fields in a table, from a position on; no field may be there twice. -/
def slotsFrom (entries : List (Key × Datum)) (position : Nat) :
    List String → Option (List (Option Datum))
  | [] => some []
  | name :: names => do
    let slots ← slotsFrom entries (position + 1) names
    match standing entries name position with
    | [] => some (none :: slots)
    | [(_, d)] => some (some d :: slots)
    | _ => none

/-- The contents of named fields in a list, in their order; no item may be left over. -/
def slotsInOrder : List Datum → List String → Option (List (Option Datum))
  | [], names => some (names.map fun _ => none)
  | _ :: _, [] => none
  | d :: items, _ :: names => (slotsInOrder items names).map (some d :: ·)

/-- The contents of named fields, of a table or of a list in their order. -/
def slots? (names : List String) : Datum → Option (List (Option Datum))
  | .table entries =>
    if entries.any (·.1 == .other) then none else slotsFrom entries 0 names
  | .list items => slotsInOrder items names
  | _ => none

/-- Contents read, each in its own way. -/
def readSlots {β : Type} : List (String × (Datum → Option β)) → List (Option Datum) →
    Option (List (Option β))
  | (_, read) :: parts, some d :: slots => do
    let b ← read d
    let bs ← readSlots parts slots
    return some b :: bs
  | _ :: parts, none :: slots => do
    let bs ← readSlots parts slots
    return none :: bs
  | _, _ => some []

/-- How the parts of a definition show in a data tree. In the lenient form an empty table under
a word counts as nothing. -/
def form (lenient : Bool) : Form Option Datum where
  malformed := none
  text := text?
  flag := flag?
  optional
    | .null => some none
    | d => some (some d)
  items := items?
  choice := choice? lenient
  fields := fun parts d => do readSlots parts (← d.slots? (parts.map (·.1)))

/-- The content of a key that has to be there once. -/
def single? (name : String) (entries : List (Key × Datum)) : Option Datum :=
  match entries.filter fun entry => entry.1 == .name name with
  | [(_, d)] => some d
  | _ => none

/-- The entries without those of a key. -/
def without (name : String) (entries : List (Key × Datum)) : List (Key × Datum) :=
  entries.filter fun entry => entry.1 != .name name

/-- The position of a word, or in the lenient form the position itself. -/
def tagChoice? (lenient : Bool) (words : List String) : Datum → Option Nat
  | .text s => words.idxOf? s
  | .natural n => if lenient && n < words.length then some n else none
  | _ => none

end Datum

end Remap
