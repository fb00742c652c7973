import Remap.Convert.Transform

/-!
# The registry of converters

Which converter takes a value of one kind to another. The exact pair of keys wins, then the keys
of any record in place of a named one, then converters from any value; the source varies
slowest. What was found, or not found, is remembered until a converter is added.
-/

namespace Remap

/-- Converts a value to a declared type. -/
abbrev TypedConverter (m : Type → Type) := Value → FieldType → ExceptT ConversionError m Value

/-- A pair of keys that a converter is registered for. -/
abbrev KeyPair := TypeKey × TypeKey

/-- The keys to look under for a source, the closest first. -/
def TypeKey.sourceCandidates : TypeKey → List TypeKey
  | .any => [.any]
  | .record (some name) => [.record (some name), .record none, .any]
  | key => [key, .any]

/-- The keys to look under for a target, the closest first. -/
def TypeKey.targetCandidates : TypeKey → List TypeKey
  | .record (some name) => [.record (some name), .record none]
  | key => [key]

/-- The pairs to look under, in order. -/
def candidatePairs (source target : TypeKey) : List KeyPair :=
  source.sourceCandidates.flatMap fun s => target.targetCandidates.map fun t => (s, t)

/-- Converters by the keys they take and give, and the look-ups remembered so far. -/
structure ConversionRegistry (m : Type → Type) where
  table : List (KeyPair × TypedConverter m)
  remembered : List (KeyPair × Option (TypedConverter m))

namespace ConversionRegistry

variable {m : Type → Type}

/-- No converters. -/
def empty : ConversionRegistry m := ⟨[], []⟩

/-- The first entry of a pair. -/
def lookup {α : Type} : List (KeyPair × α) → KeyPair → Option α
  | [], _ => none
  | (p, a) :: rest, pair => if p = pair then some a else lookup rest pair

/-- A table with an entry stored: in place when the pair is there, else last. -/
def store {α : Type} : List (KeyPair × α) → KeyPair → α → List (KeyPair × α)
  | [], pair, a => [(pair, a)]
  | (p, b) :: rest, pair, a =>
    if p = pair then (p, a) :: rest else (p, b) :: store rest pair a

/-- A pair that was stored has the entry that was stored. -/
theorem lookup_store_self {α : Type} (table : List (KeyPair × α)) (pair : KeyPair) (a : α) :
    lookup (store table pair a) pair = some a := by
  fun_induction store table pair a with
  | case1 => simp [lookup]
  | case2 => simp [lookup]
  | case3 p b rest pair a different ih => simp [lookup, different, ih]

/-- Every other pair has the entry that it had. -/
theorem lookup_store_of_ne {α : Type} (table : List (KeyPair × α)) {pair other : KeyPair} (a : α)
    (different : other ≠ pair) : lookup (store table pair a) other = lookup table other := by
  fun_induction store table pair a with
  | case1 pair a => simp [lookup, Ne.symm different]
  | case2 p b rest a => simp [lookup, Ne.symm different]
  | case3 p b rest pair a elsewhere ih => simp [lookup, ih different]

/-- The registry with a converter for a pair of keys; what was remembered is forgotten. -/
def add (r : ConversionRegistry m) (source target : TypeKey) (converter : TypedConverter m) :
    ConversionRegistry m :=
  ⟨store r.table (source, target) converter, []⟩

/-- The converter for a pair of keys, looked for in the table. -/
def search (r : ConversionRegistry m) (source target : TypeKey) : Option (TypedConverter m) :=
  (candidatePairs source target).findSome? (lookup r.table)

/-- The converter for a pair of keys, remembered or looked for, and the registry that remembers
it. -/
def find (r : ConversionRegistry m) (source target : TypeKey) :
    Option (TypedConverter m) × ConversionRegistry m :=
  match lookup r.remembered (source, target) with
  | some found => (found, r)
  | none =>
    let found := r.search source target
    (found, { r with remembered := ((source, target), found) :: r.remembered })

/-- A converter that is found with nothing remembered stands in the table, under one of the pairs to
look under. -/
theorem lookup_of_find {r : ConversionRegistry m} {source target : TypeKey}
    {converter : TypedConverter m} (fresh : r.remembered = [])
    (found : (r.find source target).1 = some converter) :
    ∃ s, ∃ t ∈ target.targetCandidates, lookup r.table (s, t) = some converter := by
  rw [find, fresh] at found
  obtain ⟨pair, candidate, entry⟩ := List.exists_of_findSome?_eq_some found
  obtain ⟨s, -, member⟩ := List.mem_flatMap.mp candidate
  obtain ⟨t, among, rfl⟩ := List.mem_map.mp member
  exact ⟨s, t, among, entry⟩

/-- A value of one key can stand where the other is asked for. -/
def canConvert (r : ConversionRegistry m) (source target : TypeKey) :
    Bool × ConversionRegistry m :=
  if source = target ∨ target = .any then (true, r)
  else
    let (found, r) := r.find source target
    (found.isSome, r)

/-- A value fitted to a declared type: as it is if the type accepts it, else converted. -/
def convert [Monad m] (r : ConversionRegistry m) (v : Value) (t : FieldType) :
    ExceptT ConversionError m Value :=
  if t.accepts v then pure v
  else
    match (r.find v.key t.key).1 with
    | some converter => converter v t
    | none => throw (.noConverter v.key.text t.key.text)

/-- The registry after a value was fitted to a declared type. -/
def afterConvert (r : ConversionRegistry m) (v : Value) (t : FieldType) : ConversionRegistry m :=
  if t.accepts v then r else (r.find v.key t.key).2

/-- The number of converters. -/
def size (r : ConversionRegistry m) : Nat := r.table.length

/-- The pairs of keys that have a converter, as texts in ascending order. -/
def pairTexts (r : ConversionRegistry m) : List String :=
  (r.table.map fun entry => entry.1.1.text ++ " -> " ++ entry.1.2.text).mergeSort
    (fun a b => decide (a ≤ b))

end ConversionRegistry

end Remap
