import Mathlib.Data.List.ProdSigma
import Remap.Convert.Standard

/-!
# What is remembered does not show

A registry remembers each look-up under the pair of keys that was asked for, also when nothing was
found. A converter may stand under a wider pair, so one that is added later can change the answer
for many pairs at once.

Main statement: whatever was added and asked for before, a look-up gives what a search of the table
gives, and that is the converter added last for the closest pair of keys that one was added for.
-/

namespace Remap

namespace TypeKey

/-- The key is that of a record type with a name. -/
def IsNamedRecord (key : TypeKey) : Prop := ∃ name, key = .record (some name)

instance : DecidablePred IsNamedRecord
  | .record (some name) => isTrue ⟨name, rfl⟩
  | .record none | .any | .null | .boolean | .integer | .decimal | .string | .list =>
    isFalse fun ⟨_, equal⟩ => by cases equal

/-- The key and what may stand for it, the closest first: any record for a named one. -/
def closest (key : TypeKey) : List TypeKey :=
  key :: if key.IsNamedRecord then [.record none] else []

/-- The key and what may stand for it, any value included. -/
def closestOrAny (key : TypeKey) : List TypeKey :=
  key.closest ++ if key = .any then [] else [.any]

theorem targetCandidates_eq (key : TypeKey) : key.targetCandidates = key.closest := by
  cases key with
  | record name => cases name <;> rfl
  | _ => rfl

theorem sourceCandidates_eq (key : TypeKey) : key.sourceCandidates = key.closestOrAny := by
  cases key with
  | record name => cases name <;> rfl
  | _ => rfl

end TypeKey

namespace ConversionRegistry

variable {m : Type → Type}

/-- What can be asked of a registry. A converter that turns to the registry while it runs asks after
the conversion that runs it, so what it asks for is the next request. -/
inductive Request (m : Type → Type)
  | add (source target : TypeKey) (converter : TypedConverter m)
  | find (source target : TypeKey)
  | canConvert (source target : TypeKey)
  | convert (v : Value) (t : FieldType)

/-- The registry after a request. -/
def serve (r : ConversionRegistry m) : Request m → ConversionRegistry m
  | .add source target converter => r.add source target converter
  | .find source target => (r.find source target).2
  | .canConvert source target => (r.canConvert source target).2
  | .convert v t => r.afterConvert v t

/-- The registry after requests one after the other. -/
def after (r : ConversionRegistry m) (requests : List (Request m)) : ConversionRegistry m :=
  requests.foldl serve r

/-- The converter that a request adds for a pair of keys. -/
def Request.adds? (pair : KeyPair) : Request m → Option (TypedConverter m)
  | .add source target converter => if (source, target) = pair then some converter else none
  | .find .. => none
  | .canConvert .. => none
  | .convert .. => none

/-- The converter that was added last for a pair of keys. -/
def lastAdded (requests : List (Request m)) (pair : KeyPair) : Option (TypedConverter m) :=
  requests.reverse.findSome? (Request.adds? pair)

/-- The converter that was added last for the closest pair of keys that one was added for. The
source is widened last. -/
def closestAdded (requests : List (Request m)) (source target : TypeKey) :
    Option (TypedConverter m) :=
  (source.closestOrAny.product target.closest).findSome? (lastAdded requests)

/-! ## What is remembered is what a search finds -/

/-- Every look-up that is remembered gives what a search of the table gives. -/
def Mindful (r : ConversionRegistry m) : Prop :=
  ∀ source target found, lookup r.remembered (source, target) = some found →
    found = r.search source target

theorem Mindful.of_remembered_eq_nil {r : ConversionRegistry m} (fresh : r.remembered = []) :
    r.Mindful := by
  intro source target found entry
  rw [fresh] at entry
  cases entry

/-- A mindful registry finds what a search finds. -/
theorem Mindful.find_eq_search {r : ConversionRegistry m} (mindful : r.Mindful)
    (source target : TypeKey) : (r.find source target).1 = r.search source target := by
  unfold find
  split
  · next found entry => exact mindful source target found entry
  · rfl

/-- A look-up leaves the table as it is. -/
theorem table_find (r : ConversionRegistry m) (source target : TypeKey) :
    (r.find source target).2.table = r.table := by
  unfold find
  split <;> rfl

/-- A registry with the same table searches in the same way. -/
theorem search_eq_of_table_eq {r r' : ConversionRegistry m} (same : r'.table = r.table) :
    r'.search = r.search := by
  funext source target
  rw [search, search, same]

theorem Mindful.find {r : ConversionRegistry m} (mindful : r.Mindful) (source target : TypeKey) :
    (r.find source target).2.Mindful := by
  intro s t found entry
  rw [search_eq_of_table_eq (r.table_find source target)]
  unfold ConversionRegistry.find at entry
  split at entry
  · exact mindful s t found entry
  · by_cases asked : (source, target) = (s, t)
    · cases asked
      rw [lookup, if_pos rfl] at entry
      cases entry
      rfl
    · rw [lookup, if_neg asked] at entry
      exact mindful s t found entry

/-- A request for a converter is no look-up, or one look-up. -/
theorem serve_cases (r : ConversionRegistry m) (request : Request m) :
    (∃ source target converter, request = .add source target converter ∧
        r.serve request = r.add source target converter) ∨
      (∀ pair, request.adds? pair = none) ∧
        (r.serve request = r ∨ ∃ source target, r.serve request = (r.find source target).2) := by
  cases request with
  | add source target converter => exact .inl ⟨source, target, converter, rfl, rfl⟩
  | find source target => exact .inr ⟨fun _ => rfl, .inr ⟨source, target, rfl⟩⟩
  | canConvert source target =>
    refine .inr ⟨fun _ => rfl, ?_⟩
    simp only [serve, canConvert]
    split
    · exact .inl rfl
    · exact .inr ⟨source, target, rfl⟩
  | convert v t =>
    refine .inr ⟨fun _ => rfl, ?_⟩
    simp only [serve, afterConvert]
    split
    · exact .inl rfl
    · exact .inr ⟨v.key, t.key, rfl⟩

theorem Mindful.serve {r : ConversionRegistry m} (mindful : r.Mindful) (request : Request m) :
    (r.serve request).Mindful := by
  rcases r.serve_cases request with ⟨_, _, _, -, added⟩ | ⟨-, kept | ⟨source, target, found⟩⟩
  · rw [added]
    exact .of_remembered_eq_nil rfl
  · rw [kept]
    exact mindful
  · rw [found]
    exact mindful.find source target

theorem Mindful.after {r : ConversionRegistry m} (mindful : r.Mindful)
    (requests : List (Request m)) : (r.after requests).Mindful := by
  induction requests generalizing r with
  | nil => exact mindful
  | cons request rest ih => exact ih (mindful.serve request)

/-! ## What stands in the table was added last -/

/-- Under each pair of keys the table has the converter that was added last for it. -/
def Records (r : ConversionRegistry m) (requests : List (Request m)) : Prop :=
  ∀ pair, lookup r.table pair = lastAdded requests pair

theorem lastAdded_concat (requests : List (Request m)) (request : Request m) (pair : KeyPair) :
    lastAdded (requests ++ [request]) pair = (request.adds? pair).or (lastAdded requests pair) := by
  rw [lastAdded, List.reverse_append, List.reverse_singleton, List.singleton_append,
    List.findSome?_cons, lastAdded]
  cases request.adds? pair <;> rfl

theorem Records.serve {r : ConversionRegistry m} {requests : List (Request m)}
    (records : r.Records requests) (request : Request m) :
    (r.serve request).Records (requests ++ [request]) := by
  intro pair
  rw [lastAdded_concat, ← records pair]
  rcases r.serve_cases request with ⟨source, target, converter, rfl, added⟩ | ⟨adds, served⟩
  · rw [added, Request.adds?, add]
    by_cases here : (source, target) = pair
    · rw [if_pos here, ← here]
      exact lookup_store_self r.table (source, target) converter
    · rw [if_neg here]
      exact lookup_store_of_ne r.table converter (Ne.symm here)
  · have table : (r.serve request).table = r.table := by
      rcases served with kept | ⟨source, target, found⟩
      · rw [kept]
      · rw [found, table_find]
    rw [adds pair, table]
    rfl

theorem Records.after {r : ConversionRegistry m} {before : List (Request m)}
    (records : r.Records before) (requests : List (Request m)) :
    (r.after requests).Records (before ++ requests) := by
  induction requests generalizing r before with
  | nil =>
    rw [List.append_nil]
    exact records
  | cons request rest ih =>
    have rest := ih (records.serve request)
    rw [List.append_assoc, List.singleton_append] at rest
    exact rest

theorem Records.empty : (ConversionRegistry.empty : ConversionRegistry m).Records [] :=
  fun _ => rfl

/-- A search of the table gives the converter that was added last for the closest pair. -/
theorem Records.search_eq {r : ConversionRegistry m} {requests : List (Request m)}
    (records : r.Records requests) (source target : TypeKey) :
    r.search source target = closestAdded requests source target := by
  have pairs : candidatePairs source target = source.closestOrAny.product target.closest := by
    rw [candidatePairs, TypeKey.sourceCandidates_eq, TypeKey.targetCandidates_eq]
    rfl
  rw [search, closestAdded, pairs, funext records]

/-! ## Look-ups -/

/-- How the standard registry comes about. -/
def standardRequests [Monad m] : List (Request m) :=
  [.add .string .integer (Standard.plain Standard.textToInteger),
    .add .string .decimal (Standard.plain Standard.textToDecimal),
    .add .string .boolean (Standard.plain Standard.textToBoolean),
    .add .integer .decimal (Standard.plain Standard.numberToDecimal),
    .add .decimal .integer (Standard.plain Standard.decimalToInteger),
    .add .integer .string (Standard.plain Standard.scalarToText),
    .add .decimal .string (Standard.plain Standard.scalarToText),
    .add .boolean .string (Standard.plain Standard.scalarToText)]

theorem standard_eq_after [Monad m] :
    (standard : ConversionRegistry m) = empty.after standardRequests := rfl

/-- A look-up gives what a search of the table gives: the converter that the requests added last for
the closest pair of keys. -/
def FindsClosest (r : ConversionRegistry m) (requests : List (Request m)) : Prop :=
  ∀ source target, (r.find source target).1 = r.search source target ∧
    r.search source target = closestAdded requests source target

theorem findsClosest_after_empty (requests : List (Request m)) :
    (empty.after requests).FindsClosest requests := by
  intro source target
  have mindful : ((empty : ConversionRegistry m).after requests).Mindful :=
    (Mindful.of_remembered_eq_nil rfl).after requests
  have records : ((empty : ConversionRegistry m).after requests).Records requests :=
    Records.empty.after requests
  exact ⟨mindful.find_eq_search source target, records.search_eq source target⟩

/-- Look-ups do not show what is remembered. Whatever was added to the empty or to the standard
registry and asked of it before, a look-up gives what a search of the table gives: the converter
that was added last for the closest pair of keys. -/
theorem findsClosest_after [Monad m] (requests : List (Request m)) :
    ((empty : ConversionRegistry m).after requests).FindsClosest requests ∧
      (standard.after requests).FindsClosest (standardRequests ++ requests) := by
  refine ⟨findsClosest_after_empty requests, ?_⟩
  have began : (standard : ConversionRegistry m).after requests =
      empty.after (standardRequests ++ requests) := by
    rw [standard_eq_after, after, after, after, List.foldl_append]
  rw [began]
  exact findsClosest_after_empty (standardRequests ++ requests)

end ConversionRegistry

end Remap
