import Remap.Path.Basic

/-!
# Writing at a path

Storing a value at the end of a path. What is missing on the way is created: a list for a
position, a record for a property. The value is fitted to the declared type of its place first.
A write works in place: values that are there are written inside, step by step, and what was
created is attached once the value is stored. Its verdict comes with the root as it was left.

`isWritable` decides beforehand, without a value, whether a write would be taken.
-/

namespace Remap

/-- How values are fitted to declared types, and what is created for a missing record. -/
structure Coercer (m : Type → Type) where
  coerce : Value → FieldType → ExceptT EvalError m Value
  instantiate : FieldType → Value

/-- The record created for a missing value of a declared type when no types are known. -/
def FieldType.emptyRecord : FieldType → Value
  | .record name => .emptyNamed name
  | _ => .emptyRecord

/-- Takes values that already fit and no others. -/
def Coercer.strict {m : Type → Type} [Monad m] : Coercer m where
  coerce v t :=
    if t.accepts v then pure v
    else throw (.conversion v.key.text t.text "no conversion available")
  instantiate := FieldType.emptyRecord

namespace Path

/-- Positions from this one on are out of reach of a write. -/
def growthLimit : Nat := 10000

/-- What is created for a missing value that a step leads into. -/
def intermediate (instantiate : FieldType → Value) (next : Segment) (declared : FieldType) :
    Value :=
  match next with
  | .index _ => .list []
  | .property _ => instantiate declared

/-- What a field holds; a missing field counts as null. -/
def fieldContent (r : Record) (name : String) : Value := (r.get? name).getD .null

/-- What a position holds; a missing item counts as null. -/
def itemContent (items : List Value) (position : Nat) : Value := items[position]?.getD .null

/-- The value that further steps start from: what is there, or what is created for null. -/
def entered (instantiate : FieldType → Value) (content : Value) (next : Segment)
    (declared : FieldType) : Value :=
  if content.isNull then intermediate instantiate next declared else content

/-- A list with an item stored; positions up to it are filled with null. -/
def setItem (items : List Value) (position : Nat) (v : Value) : List Value :=
  if position < items.length then items.set position v
  else items ++ List.replicate (position - items.length) .null ++ [v]

/-- A position that was stored to holds what was stored. -/
@[simp] theorem getElem?_setItem_self (items : List Value) (position : Nat) (v : Value) :
    (setItem items position v)[position]? = some v := by
  unfold setItem
  split
  · next inside => simp [inside]
  · next outside =>
    have filled :
        (items ++ List.replicate (position - items.length) Value.null).length = position := by
      simp only [List.length_append, List.length_replicate]
      omega
    rw [List.getElem?_append_right (Nat.le_of_eq filled), filled]
    simp

/-- Every other position that was there holds what it held. -/
theorem getElem?_setItem_of_ne {items : List Value} {position other : Nat} (v : Value)
    (different : other ≠ position) (inside : other < items.length) :
    (setItem items position v)[other]? = items[other]? := by
  unfold setItem
  split
  · rw [List.getElem?_set_ne different.symm]
  · rw [List.append_assoc, List.getElem?_append_left inside]

/-- What stands at each position after a store: what was stored, what was there, or a null that
fills up. -/
theorem getElem?_setItem (items : List Value) (position other : Nat) (v : Value) :
    (setItem items position v)[other]? =
      if other = position then some v
      else if other < items.length then items[other]?
      else if other < position then some .null else none := by
  by_cases same : other = position
  · simp [same]
  by_cases inside : other < items.length
  · rw [getElem?_setItem_of_ne v same inside]
    simp [same, inside]
  have outside : items.length ≤ other := Nat.le_of_not_lt inside
  simp only [same, inside, if_false, setItem]
  split
  · rw [List.getElem?_eq_none (by simpa using outside), if_neg (by omega)]
  · rw [List.append_assoc, List.getElem?_append_right outside]
    split
    · rw [List.getElem?_append_left (by simp only [List.length_replicate]; omega)]
      rw [List.getElem?_replicate_of_lt (by omega)]
    · refine List.getElem?_eq_none ?_
      simp only [List.length_append, List.length_replicate, List.length_singleton]
      omega

/-- A list grows up to the position that is stored to, and no further. -/
theorem length_setItem (items : List Value) (position : Nat) (v : Value) :
    (setItem items position v).length = max items.length (position + 1) := by
  unfold setItem
  split
  · rw [List.length_set]
    omega
  · simp only [List.length_append, List.length_replicate, List.length_singleton]
    omega

/-- The second of two items that are stored at one position stays. -/
theorem setItem_setItem (items : List Value) (position : Nat) (v w : Value) :
    setItem (setItem items position v) position w = setItem items position w := by
  refine List.ext_getElem? fun other => ?_
  simp only [getElem?_setItem, length_setItem]
  grind

/-- Items may be stored at two positions in either order, whichever lets the list grow. -/
theorem setItem_comm (items : List Value) {position other : Nat} (different : position ≠ other)
    (v w : Value) :
    setItem (setItem items position v) other w = setItem (setItem items other w) position v := by
  refine List.ext_getElem? fun third => ?_
  simp only [getElem?_setItem, length_setItem]
  grind

/-- An item that is stored stands among the items from before and nulls that fill up. -/
theorem mem_setItem {items : List Value} {position : Nat} {v w : Value}
    (member : w ∈ setItem items position v) : w ∈ items ∨ w = .null ∨ w = v := by
  unfold setItem at member
  split at member
  · rcases List.mem_or_eq_of_mem_set member with old | new
    · exact .inl old
    · exact .inr (.inr new)
  · rcases List.mem_append.mp member with before | last
    · rcases List.mem_append.mp before with old | filled
      · exact .inl old
      · exact .inr (.inl (List.eq_of_mem_replicate filled))
    · exact .inr (.inr (List.mem_singleton.mp last))

/-- Storing what a position holds already changes nothing. -/
theorem setItem_of_getElem?_eq_some {items : List Value} {position : Nat} {v : Value}
    (h : items[position]? = some v) : setItem items position v = items := by
  obtain ⟨inside, equal⟩ := List.getElem?_eq_some_iff.mp h
  subst equal
  simp [setItem, inside]

/-- What a write came to: its verdict, and the value as the write left it. -/
abbrev Written := Except EvalError Unit × Value

/-- The value around a place after a write below that place. What was created for a missing
content is attached only if the write succeeded; a content that was there has been written in
place. -/
def attach (content current : Value) (store : Value → Value) : Written → Written
  | (.ok (), below) => (.ok (), store below)
  | (.error e, below) => (.error e, if content.isNull then current else store below)

variable {m : Type → Type} [Monad m]

/-- A value fitted to a declared type and stored; if it does not fit, nothing is stored. -/
def storeFitted (coercer : Coercer m) (declared : FieldType) (store : Value → Value)
    (current v : Value) : m Written := do
  match ← (coercer.coerce v declared).run with
  | .ok w => return (.ok (), store w)
  | .error e => return (.error e, current)

/-- A value stored at the end of some steps. `path` is for messages. -/
def assign (coercer : Coercer m) (path : String) : List Segment → (current v : Value) → m Written
  | [], current, _ => pure (.error (.notWritable path "empty path"), current)
  | .property name :: rest, current, v =>
    match current with
    | .record r =>
      if !r.accepts name then
        pure (.error (.propertyNotFound name (r.typeName?.getD "record")), .record r)
      else
        match rest with
        | [] =>
          if !r.isWritable name then
            pure (.error (.notWritable path ("'" ++ name ++ "' is read-only")), .record r)
          else
            storeFitted coercer (r.declaredType name) (fun w => .record (r.put name w)) (.record r) v
        | next :: more =>
          let content := fieldContent r name
          if content.isNull && !r.isWritable name then
            pure (.error (.notWritable path ("cannot create read-only '" ++ name ++ "'")), .record r)
          else do
            let below ← assign coercer path (next :: more)
              (entered coercer.instantiate content next (r.declaredType name)) v
            return attach content (.record r) (fun w => .record (r.put name w)) below
    | .null => pure (.error (.nullNavigation name), .null)
    | other => pure (.error (.propertyNotFound name other.kind), other)
  | .index position :: rest, current, v =>
    match current with
    | .list items =>
      if growthLimit ≤ position then
        pure (.error (.indexOutOfBounds position items.length), .list items)
      else
        match rest with
        | [] => storeFitted coercer .any (fun w => .list (setItem items position w)) (.list items) v
        | next :: more => do
          let content := itemContent items position
          let below ← assign coercer path (next :: more)
            (entered coercer.instantiate content next .any) v
          return attach content (.list items) (fun w => .list (setItem items position w)) below
    | .null => pure (.error (.nullNavigation ("[" ++ toString position ++ "]")), .null)
    | other => pure (.error (.notIndexable other.kind), other)

/-- A write at the end of some steps would be taken: `false` says that the place is undeclared,
read-only or out of reach, an error that the steps lead nowhere. -/
def writable (instantiate : FieldType → Value) : List Segment → Value → Except EvalError Bool
  | [], _ => .ok false
  | .property name :: rest, current =>
    match current with
    | .record r =>
      if !r.accepts name then .ok false
      else
        match rest with
        | [] => .ok (r.isWritable name)
        | next :: more =>
          let content := fieldContent r name
          if content.isNull && !r.isWritable name then .ok false
          else
            writable instantiate (next :: more)
              (entered instantiate content next (r.declaredType name))
    | .null => .error (.nullNavigation name)
    | other => .error (.propertyNotFound name other.kind)
  | .index position :: rest, current =>
    match current with
    | .list items =>
      if growthLimit ≤ position then .ok false
      else
        match rest with
        | [] => .ok true
        | next :: more =>
          writable instantiate (next :: more)
            (entered instantiate (itemContent items position) next .any)
    | .null => .error (.nullNavigation ("[" ++ toString position ++ "]"))
    | other => .error (.notIndexable other.kind)

/-- A value stored at the path: the verdict, and the root after the write. -/
def writeInto (path : Path) (coercer : Coercer m) (root v : Value) : m Written :=
  assign coercer path.text path.segments root v

/-- The root with a value stored at the path. -/
def write (path : Path) (coercer : Coercer m) (root v : Value) : ExceptT EvalError m Value :=
  ExceptT.mk do
    let (verdict, after) ← path.writeInto coercer root v
    return verdict.map fun () => after

/-- A write at the path would be taken. -/
def isWritable (path : Path) (instantiate : FieldType → Value) (root : Value) :
    Except EvalError Bool :=
  writable instantiate path.segments root

end Path

end Remap
