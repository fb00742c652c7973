import Remap.Proofs.Path.Slot

/-!
# What a write keeps

A place holds what was stored there, and a store at one place leaves alone what stands at the end
of steps that lead elsewhere. `Diverge` says when two paths lead apart: at some position both have
a step and the steps differ.
-/

namespace Remap.Path

/-- Two lists of steps differ at a position that both have. -/
inductive Diverge : List Segment → List Segment → Prop
  | here {s t : Segment} (different : s ≠ t) (p q : List Segment) : Diverge (s :: p) (t :: q)
  | later (s : Segment) {p q : List Segment} (apart : Diverge p q) : Diverge (s :: p) (s :: q)

/-- The steps lead to a place of a declared type, and that place holds a value. -/
structure Holds (instantiate : FieldType → Value) (segments : List Segment) (root : Value)
    (declared : FieldType) (v : Value) : Prop where
  read : readSegments root segments = .ok v
  lands : ∃ store, Lands instantiate segments root ⟨declared, store⟩

variable {instantiate : FieldType → Value} {p q rest more : List Segment} {s t next : Segment}
  {v w a root : Value} {slot : Slot} {place : Place} {declared : FieldType} {items : List Value}
  {position : Nat}

/-! ## Reading one step -/

theorem readSegments_property {r : Record} {name : String}
    (found : r.get? name = some a) (rest : List Segment) :
    readSegments (.record r) (.property name :: rest) = readSegments a rest := by
  simp [readSegments, readSegment, Expression.readProperty, found, bind, Except.bind]

theorem readSegments_index (found : items[position]? = some a) (rest : List Segment) :
    readSegments (.list items) (.index position :: rest) = readSegments a rest := by
  simp [readSegments, readSegment, Expression.readItem, found, bind, Except.bind]

/-- Nothing is read below null. -/
theorem isNull_of_readSegments (read : readSegments root (s :: rest) = .ok v) :
    root.isNull = false := by
  cases root with
  | null =>
    cases s <;>
      simp [readSegments, readSegment, Expression.readProperty, bind, Except.bind] at read
  | _ => rfl

/-- What is read through an item is there. -/
theorem getElem?_of_readSegments
    (read : readSegments (.list items) (.index position :: rest) = .ok v) :
    ∃ a, items[position]? = some a ∧ readSegments a rest = .ok v := by
  cases found : items[position]? with
  | some a => exact ⟨a, rfl, by rwa [readSegments_index found] at read⟩
  | none =>
    simp [readSegments, readSegment, Expression.readItem, found, bind, Except.bind] at read

/-! ## Reading through a slot -/

/-- What is read through a slot is read in what the slot holds. -/
theorem readSegments_content (found : root.slot? s = some slot)
    (read : readSegments root (s :: rest) = .ok v) : readSegments slot.content rest = .ok v := by
  rcases Value.slot?_cases found with
    ⟨r, name, rfl, rfl, accepted, rfl⟩ | ⟨items, position, rfl, rfl, -, rfl⟩
  · simp only [fieldContent]
    cases content : r.get? name with
    | some a => rwa [readSegments_property content] at read
    | none =>
      -- A declared field that is missing reads as null.
      simpa [readSegments, readSegment, Expression.readProperty, content, accepted, bind,
        Except.bind] using read
  · obtain ⟨a, content, below⟩ := getElem?_of_readSegments read
    simpa [itemContent, content] using below

/-- What was stored in a slot is what further steps start from. -/
theorem readSegments_putSlot_self (found : root.slot? s = some slot) (w : Value)
    (rest : List Segment) : readSegments (root.putSlot s w) (s :: rest) = readSegments w rest := by
  rcases Value.slot?_cases found with ⟨r, name, rfl, rfl, -⟩ | ⟨items, position, rfl, rfl, -⟩
  · exact readSegments_property (RecordOf.get?_put_self r name w) rest
  · exact readSegments_index (getElem?_setItem_self items position w) rest

/-- A store to a slot leaves alone what is read through another one. -/
theorem readSegments_putSlot_of_ne (different : t ≠ s)
    (read : readSegments root (t :: rest) = .ok v) (w : Value) :
    readSegments (root.putSlot s w) (t :: rest) = .ok v := by
  cases root with
  | record r =>
    cases s with
    | index => exact read
    | property name =>
      cases t with
      | index => cases read
      | property other =>
        have apart : other ≠ name := fun same => different (congrArg Segment.property same)
        have same : Expression.readProperty (.record (r.put name w)) other =
            Expression.readProperty (.record r) other := by
          simp only [Expression.readProperty, RecordOf.get?_put_of_ne r w apart]
          rfl
        simpa only [Value.putSlot, readSegments, readSegment, same] using read
  | list items =>
    cases s with
    | property => exact read
    | index position =>
      cases t with
      | property => cases read
      | index other =>
        have apart : other ≠ position := fun same => different (congrArg Segment.index same)
        obtain ⟨a, found, below⟩ := getElem?_of_readSegments read
        have inside : other < items.length := (List.getElem?_eq_some_iff.mp found).1
        have kept := (getElem?_setItem_of_ne w apart inside).trans found
        exact (readSegments_index kept rest).trans below
  | _ => exact read

/-- Steps that are read below a slot go into something that is there, and a write goes into the
same. -/
theorem entered_eq_content (read : readSegments slot.content (s :: rest) = .ok v) :
    entered instantiate slot.content next slot.declared = slot.content :=
  entered_of_isNull_eq_false (isNull_of_readSegments read)

/-! ## Reading back -/

/-- A place holds what was stored there, and its declared type stays. -/
theorem Lands.holds_store (lands : Lands instantiate p root place) (w : Value) :
    Holds instantiate p (place.store w) place.declared w where
  read := by
    induction lands using Lands.induction_on_slots with
    | here s root slot _ found => exact readSegments_putSlot_self found w []
    | under s next more root slot place _ found _ below ih =>
      exact (readSegments_putSlot_self found _ _).trans ih
  lands := ⟨place.store, lands.again w⟩

/-! ## Elsewhere -/

/-- What stands below a slot stands in what the slot holds. -/
theorem Holds.below_slot (held : Holds instantiate (s :: next :: more) root declared v)
    (found : root.slot? s = some slot) :
    Holds instantiate (next :: more) slot.content declared v := by
  obtain ⟨read, store, lands⟩ := held
  have inside := readSegments_content found read
  obtain ⟨store, lands⟩ := lands.below_slot found
  rw [entered_eq_content inside] at lands
  exact ⟨inside, store, lands⟩

/-- What stands in a value stands below the slot that the value is stored in. -/
theorem Holds.under_putSlot (held : Holds instantiate (next :: more) a declared v)
    (found : root.slot? s = some slot) :
    Holds instantiate (s :: next :: more) (root.putSlot s a) declared v := by
  obtain ⟨read, store, lands⟩ := held
  have present : a.isNull = false := isNull_of_readSegments read
  exact ⟨(readSegments_putSlot_self found a _).trans read, _, lands.under_putSlot found present⟩

/-- A store to a slot leaves alone what stands in another one or below it. -/
theorem Holds.putSlot_of_ne (held : Holds instantiate (t :: rest) root declared v)
    (different : t ≠ s) (w : Value) :
    Holds instantiate (t :: rest) (root.putSlot s w) declared v := by
  obtain ⟨read, store, lands⟩ := held
  exact ⟨readSegments_putSlot_of_ne different read w,
    lands.of_slot?_eq (Value.slot?_putSlot_of_ne different w)⟩

/-- A store leaves alone every place that diverging steps lead to. -/
theorem Holds.store_of_diverge (lands : Lands instantiate q root place)
    (held : Holds instantiate p root declared v) (apart : Diverge p q) (w : Value) :
    Holds instantiate p (place.store w) declared v := by
  induction lands using Lands.induction_on_slots generalizing p with
  | here s root slot _ found =>
    cases apart with
    | here different => exact held.putSlot_of_ne different w
    | later _ apart => cases apart
  | under s next more root slot place _ found _ below ih =>
    cases apart with
    | here different => exact held.putSlot_of_ne different _
    | @later _ p _ apart =>
      cases p with
      | nil => cases apart
      | cons t rest =>
        -- Both paths go through this slot: something is there, so the write went inside it.
        have inside := held.below_slot found
        rw [entered_eq_content inside.read] at ih
        exact (ih inside apart).under_putSlot found

end Remap.Path
