import Remap.Proofs.Convert.Everywhere
import Remap.Proofs.Convert.Remembered
import Remap.Proofs.Convert.Standard

/-!
# Conversions foreseen

Whether a registry can convert is asked of two keys, before there is a value. A conversion looks at
the value first and at keys only if the declared type does not accept it as it is. The two agree,
since a value that is there is accepted exactly if its key is that of the type or the type takes
every value; what is left is one look-up on both sides, and that does not show what is remembered.

Main statement: a conversion fails for lack of a converter exactly if the registry has said so.
-/

namespace Remap

/-- A value that is there is accepted by its key: it is that of the type, or the type takes every
value. -/
theorem FieldType.accepts_iff_key {v : Value} (present : v ≠ .null) (t : FieldType) :
    t.accepts v = true ↔ v.key = t.key ∨ t.key = .any := by
  cases v with
  | null => exact absurd rfl present
  | record r =>
    cases t with
    | record name => simp [accepts, Value.key, key, TypeKey.record.injEq]
    | _ => simp [accepts, Value.key, key]
  | _ => cases t <;> simp [accepts, Value.key, key]

variable {σ : Type}

/-- The converter never reports by itself that there is no converter. -/
def TypedConverter.Committed (converter : TypedConverter (StateM σ)) : Prop :=
  ∀ v t s source target s', (converter v t).run.run s ≠ (.error (.noConverter source target), s')

/-- A function that only refuses values is a committed converter. -/
theorem Standard.plain_committed {f : Value → Except ConversionError Value}
    (refuses : OnlyRefuses f) : (plain f : TypedConverter (StateM σ)).Committed := by
  intro v _ s source target s' ran
  obtain ⟨_, _, _, refused⟩ := refuses v _ (congrArg Prod.fst ran)
  cases refused

/-- Run in a state, a conversion fails for lack of a converter between two keys, told by their
texts. -/
def Lacks (conversion : ExceptT ConversionError (StateM σ) Value) (s : σ)
    (source target : String) : Prop :=
  ∃ s', conversion.run.run s = (.error (.noConverter source target), s')

namespace ConversionRegistry

variable {r : ConversionRegistry (StateM σ)} {v : Value} {t : FieldType}

/-! ## A conversion, by what is found -/

theorem convert_of_accepts (r : ConversionRegistry (StateM σ)) (accepted : t.accepts v = true) :
    r.convert v t = pure v := by
  rw [convert, if_pos accepted]

theorem convert_of_find (refused : t.accepts v = false) {converter : TypedConverter (StateM σ)}
    (found : (r.find v.key t.key).1 = some converter) : r.convert v t = converter v t := by
  rw [convert, if_neg (Bool.not_eq_true _ ▸ refused), found]

theorem convert_of_find_eq_none (refused : t.accepts v = false)
    (missing : (r.find v.key t.key).1 = none) :
    r.convert v t = throw (.noConverter v.key.text t.key.text) := by
  rw [convert, if_neg (Bool.not_eq_true _ ▸ refused), missing]

/-- Nothing converts from a key to another one that does not stand for every value, and for which
no converter is found. -/
theorem canConvert_eq_false_iff {source target : TypeKey} :
    (r.canConvert source target).1 = false ↔
      ¬ (source = target ∨ target = .any) ∧ (r.find source target).1 = none := by
  rw [canConvert]
  by_cases same : source = target ∨ target = .any
  · rw [if_pos same]
    exact iff_of_false Bool.false_ne_true.symm fun both => both.1 same
  · rw [if_neg same, and_iff_right same]
    exact Option.not_isSome_iff_eq_none.symm.trans (by rw [Bool.not_eq_true]) |>.symm

/-- Of a value that is there, nothing converts if its type refuses it and no converter is found. -/
theorem canConvert_key_eq_false_iff (present : v ≠ .null) :
    (r.canConvert v.key t.key).1 = false ↔
      t.accepts v = false ∧ (r.find v.key t.key).1 = none := by
  rw [canConvert_eq_false_iff, ← FieldType.accepts_iff_key present, Bool.not_eq_true]

/-! ## Look-ups in between -/

/-- The request adds no converter. -/
def Request.IsLookup (request : Request (StateM σ)) : Prop := ∀ pair, request.adds? pair = none

theorem table_serve_of_isLookup {request : Request (StateM σ)} (looks : request.IsLookup) :
    (r.serve request).table = r.table := by
  rcases r.serve_cases request with ⟨source, target, converter, rfl, -⟩ | ⟨-, kept | ⟨s, t, found⟩⟩
  · have adds := looks (source, target)
    rw [Request.adds?, if_pos rfl] at adds
    cases adds
  · rw [kept]
  · rw [found, table_find]

theorem table_after_of_isLookup {lookups : List (Request (StateM σ))}
    (look : ∀ request ∈ lookups, request.IsLookup) : (r.after lookups).table = r.table := by
  induction lookups generalizing r with
  | nil => rfl
  | cons request rest ih =>
    rw [List.forall_mem_cons] at look
    have served := table_serve_of_isLookup (r := r) look.1
    exact (ih look.2).trans served

/-- Whatever is asked in between, the same converter is found. -/
theorem Mindful.find_after (mindful : r.Mindful) {lookups : List (Request (StateM σ))}
    (look : ∀ request ∈ lookups, request.IsLookup) (source target : TypeKey) :
    ((r.after lookups).find source target).1 = (r.find source target).1 := by
  rw [(mindful.after lookups).find_eq_search, mindful.find_eq_search,
    search_eq_of_table_eq (table_after_of_isLookup look)]

/-! ## The standard converters -/

/-- The standard converters are committed. -/
theorem committed_standard :
    (standard : ConversionRegistry (StateM σ)).Everywhere TypedConverter.Committed :=
  Everywhere.empty
    |>.add .string .integer (Standard.plain_committed Standard.onlyRefuses_textToInteger)
    |>.add .string .decimal (Standard.plain_committed Standard.onlyRefuses_textToDecimal)
    |>.add .string .boolean (Standard.plain_committed Standard.onlyRefuses_textToBoolean)
    |>.add .integer .decimal (Standard.plain_committed Standard.onlyRefuses_numberToDecimal)
    |>.add .decimal .integer (Standard.plain_committed Standard.onlyRefuses_decimalToInteger)
    |>.add .integer .string (Standard.plain_committed Standard.onlyRefuses_scalarToText)
    |>.add .decimal .string (Standard.plain_committed Standard.onlyRefuses_scalarToText)
    |>.add .boolean .string (Standard.plain_committed Standard.onlyRefuses_scalarToText)

/-! ## The verdict and the outcome -/

/-- A committed converter that is found leaves nothing to lack. -/
theorem Mindful.not_lacks_of_find (mindful : r.Mindful)
    (committed : ∀ pair converter, lookup r.table pair = some converter → converter.Committed)
    (refused : t.accepts v = false) {converter : TypedConverter (StateM σ)}
    (found : (r.find v.key t.key).1 = some converter) {s : σ} {source target : String} :
    ¬ Lacks (r.convert v t) s source target := by
  rw [convert_of_find refused found]
  rw [mindful.find_eq_search] at found
  obtain ⟨pair, -, entry⟩ := List.exists_of_findSome?_eq_some found
  rintro ⟨s', ran⟩
  exact committed pair converter entry v t s source target s' ran

/-- A conversion lacks a converter exactly if its type refuses the value and none is found, and then
between the key of the value and that of the type. -/
theorem Mindful.lacks_iff (mindful : r.Mindful)
    (committed : ∀ pair converter, lookup r.table pair = some converter → converter.Committed)
    (v : Value) (t : FieldType) (s : σ) (source target : String) :
    Lacks (r.convert v t) s source target ↔
      (t.accepts v = false ∧ (r.find v.key t.key).1 = none) ∧
        source = v.key.text ∧ target = t.key.text := by
  cases accepted : t.accepts v with
  | true =>
    rw [r.convert_of_accepts accepted]
    refine iff_of_false ?_ nofun
    rintro ⟨s', ran⟩
    cases ran
  | false =>
    cases found : (r.find v.key t.key).1 with
    | some converter =>
      exact iff_of_false (mindful.not_lacks_of_find committed accepted found) nofun
    | none =>
      rw [convert_of_find_eq_none accepted found, and_iff_right ⟨rfl, rfl⟩]
      constructor
      · rintro ⟨s', ran⟩
        cases ran
        exact ⟨rfl, rfl⟩
      · rintro ⟨rfl, rfl⟩
        exact ⟨s, rfl⟩

/-- Conversions are foreseen. Whatever was added to a registry and asked of it before, and whatever
is asked of it in between, if its converters do not report a missing converter by themselves: a
value that is there fails to convert for lack of a converter exactly if the registry has said that
it cannot convert from the key of the value to that of the type, and these two keys are named. Null
converts to null, and a value that the type accepts stays as it is, without any effect. -/
theorem canConvert_foresees_convert (requests lookups : List (Request (StateM σ)))
    (committed : ∀ pair converter,
      lookup (empty.after requests).table pair = some converter → converter.Committed)
    (look : ∀ request ∈ lookups, request.IsLookup) (t : FieldType) :
    (∀ v : Value, v ≠ .null → ∀ s,
      ((∃ source target, Lacks (((empty.after requests).after lookups).convert v t) s source target)
        ↔ ((empty.after requests).canConvert v.key t.key).1 = false) ∧
      ∀ source target, Lacks (((empty.after requests).after lookups).convert v t) s source target →
        source = v.key.text ∧ target = t.key.text) ∧
    ((empty.after requests).after lookups).convert .null t = pure .null ∧
    ∀ v, t.accepts v = true → ((empty.after requests).after lookups).convert v t = pure v := by
  have mindful : ((empty : ConversionRegistry (StateM σ)).after requests).Mindful :=
    (Mindful.of_remembered_eq_nil rfl).after requests
  rw [← table_after_of_isLookup look] at committed
  refine ⟨fun v present s => ?_, ?_, fun v => convert_of_accepts _⟩
  · have lacks := (mindful.after lookups).lacks_iff committed v t s
    rw [canConvert_key_eq_false_iff present, ← mindful.find_after look]
    constructor
    · constructor
      · rintro ⟨source, target, failed⟩
        exact ((lacks source target).mp failed).1
      · intro missing
        exact ⟨_, _, (lacks _ _).mpr ⟨missing, rfl, rfl⟩⟩
    · intro source target failed
      exact ((lacks source target).mp failed).2
  · exact convert_of_accepts _ t.accepts_null

/-- A standard registry that was asked whether truth values convert to integers remembers that they
do not. Asked to convert one of them again and again, it lacks a converter between the two kinds. A
text that is no integer is refused, but no converter is lacking. -/
theorem standard_lacks_boolean_to_integer :
    ∃ asked : ConversionRegistry (StateM Unit),
      asked = standard.after [.canConvert .boolean .integer, .convert (.boolean true) .integer] ∧
      Lacks (asked.convert (.boolean true) .integer) () "boolean" "integer" ∧
      (∀ source target, ¬ Lacks (asked.convert (.string "ten") .integer) () source target) ∧
      asked.convert .null .integer = pure .null := by
  have committed : ∀ pair (converter : TypedConverter (StateM Unit)),
      lookup (empty.after (standardRequests ++ [.canConvert .boolean .integer])).table pair =
        some converter → converter.Committed := committed_standard.holds
  have look : ∀ request ∈ [.convert (.boolean true) .integer],
      (request : Request (StateM Unit)).IsLookup := by
    rw [List.forall_mem_singleton]
    exact fun _ => rfl
  obtain ⟨foreseen, null, -⟩ := canConvert_foresees_convert _ _ committed look .integer
  refine ⟨_, rfl, ?_, ?_, null⟩
  · obtain ⟨verdict, named⟩ := foreseen (.boolean true) nofun ()
    obtain ⟨source, target, lacks⟩ := verdict.mpr rfl
    obtain ⟨rfl, rfl⟩ := named source target lacks
    exact lacks
  · intro source target lacks
    have verdict := (foreseen (.string "ten") nofun ()).1.mp ⟨source, target, lacks⟩
    cases verdict

end ConversionRegistry

end Remap
