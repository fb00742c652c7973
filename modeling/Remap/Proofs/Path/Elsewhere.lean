import Remap.Proofs.Path.Outcome

/-!
# What a write leaves alone

A write changes the place that its steps lead to. On its way there it may fill slots that held
null, and it may let lists grow that end before its position. What other steps lead to is none of
its business, whether it may be written itself or not.

Main statement: what was read at the end of steps that lead apart is read there after the write,
and every list on the way keeps its other items and ends, if it has grown, with the position that
was written.
-/

namespace Remap.Path

variable {σ : Type} {instantiate : FieldType → Value} {segments p q route rest : List Segment}
  {s step : Segment} {x root : Value} {slot : Slot} {place : Place} {items : List Value}
  {position : Nat}

/-! ## Steps that lead apart -/

/-- A store leaves alone what is read at the end of steps that lead apart. -/
theorem Lands.read_of_diverge (lands : Lands instantiate p root place) (apart : Diverge p q)
    (read : readSegments root q = .ok x) (w : Value) :
    readSegments (place.store w) q = .ok x := by
  induction lands using Lands.induction_on_slots generalizing q with
  | here s root slot _ found =>
    cases apart with
    | here different => exact readSegments_putSlot_of_ne different.symm read w
    | later _ apart => cases apart
  | under s next more root slot place _ found _ below ih =>
    cases apart with
    | here different => exact readSegments_putSlot_of_ne different.symm read _
    | @later _ _ q apart =>
      -- Both go through this slot, and since something is read below it, it was not filled.
      have inside := readSegments_content found read
      rw [readSegments_putSlot_self found]
      cases q with
      | nil => cases apart
      | cons t rest =>
        rw [entered_eq_content inside] at ih
        exact ih apart inside

/-! ## Lists on the way -/

/-- What a write through a position makes of a list: the other items stay where they are, and a
list that ends before the position grows up to it, with nulls in the gap and within the limit. -/
structure Revised (position : Nat) (items after : List Value) : Prop where
  kept : ∀ other < items.length, other ≠ position → after[other]? = items[other]?
  length_of_inside : position < items.length → after.length = items.length
  length_of_outside : items.length ≤ position →
    after.length = position + 1 ∧ after.length ≤ growthLimit
  gap : ∀ other, items.length ≤ other → other < position → after[other]? = some .null

theorem revised_setItem (items : List Value) (near : position < growthLimit) (w : Value) :
    Revised position items (setItem items position w) where
  kept other inside different := getElem?_setItem_of_ne w different inside
  length_of_inside inside := by
    rw [length_setItem]
    omega
  length_of_outside outside := by
    rw [length_setItem]
    omega
  gap other outside before := by
    rw [getElem?_setItem, if_neg (Nat.ne_of_lt before), if_neg (Nat.not_lt.mpr outside),
      if_pos before]

/-- A slot of a list is an item within reach, and a store to it revises the list. -/
theorem exists_revised_putSlot (found : (Value.list items).slot? s = some slot) (w : Value) :
    ∃ position after, s = .index position ∧ (Value.list items).putSlot s w = .list after ∧
      Revised position items after := by
  rcases Value.slot?_cases found with ⟨_, _, equal, -⟩ | ⟨_, position, equal, rfl, near, -⟩
  · cases equal
  · exact ⟨position, _, rfl, rfl, revised_setItem items near w⟩

/-- A list that is read on the way to a place is still read there after a store, and was revised
by it. -/
theorem Lands.exists_revised (lands : Lands instantiate segments root place)
    (way : segments = route ++ step :: rest) (read : readSegments root route = .ok (.list items))
    (w : Value) :
    ∃ position after, step = .index position ∧
      readSegments (place.store w) route = .ok (.list after) ∧ Revised position items after := by
  induction lands using Lands.induction_on_slots generalizing route with
  | here s root slot _ found =>
    cases route with
    | nil =>
      cases way
      cases read
      obtain ⟨position, after, rfl, stored, revised⟩ := exists_revised_putSlot found w
      exact ⟨position, after, rfl, congrArg Except.ok stored, revised⟩
    | cons t route => simp at way
  | under s next more root slot place _ found _ below ih =>
    cases route with
    | nil =>
      cases way
      cases read
      obtain ⟨position, after, rfl, stored, revised⟩ :=
        exists_revised_putSlot found (place.store w)
      exact ⟨position, after, rfl, congrArg Except.ok stored, revised⟩
    | cons t route =>
      obtain ⟨rfl, behind⟩ := List.cons.inj way
      have inside := readSegments_content found read
      rw [readSegments_putSlot_self found]
      have present : slot.content.isNull = false := by
        cases route with
        | nil =>
          have content : slot.content = .list items := Except.ok.inj inside
          rw [content]
          rfl
        | cons => exact isNull_of_readSegments inside
      rw [entered_of_isNull_eq_false present] at ih
      exact ih behind inside

/-- A write that succeeds leaves alone what other paths lead to, if they lead apart at some step:
what was read there is read there. Each list on its way that was there before stays a list, with the
other items as they were; it is longer only if the position lies at its end or behind it, and then
it ends with that position, within the limit, and nulls fill the gap. -/
theorem writeInto_spares_elsewhere (path : Path) (coercer : Coercer (StateM σ))
    (root v after : Value) (s s' : σ)
    (written : (path.writeInto coercer root v).run s = ((.ok (), after), s')) :
    (∀ (other : Path) (x : Value), Diverge path.segments other.segments →
      other.read root = .ok x → other.read after = .ok x) ∧
    ∀ (route : List Segment) (step : Segment) (rest : List Segment) (items : List Value),
      path.segments = route ++ step :: rest → readSegments root route = .ok (.list items) →
        ∃ position items', step = .index position ∧
          readSegments after route = .ok (.list items') ∧ Revised position items items' := by
  obtain ⟨place, w, lands, -, rfl⟩ := lands_of_writeInto written
  constructor
  · intro other x apart read
    exact lands.read_of_diverge apart read w
  · intro route step rest items way read
    exact lands.exists_revised way read w

end Remap.Path

namespace Remap.Depot

/-- A row with a cell that holds a nut. -/
def nutRow : Value := .record ⟨.unnamed, [("cells", .list [.string "nut"])]⟩

/-- A shelf with one row. -/
def stocked : Value := .record ⟨.typed shelfType, [("rows", .list [nutRow])]⟩

/-- The path to the second cell of the third row of a shelf. -/
def boltCell : Path :=
  ⟨"rows[2].cells[1]", [.property "rows", .index 2, .property "cells", .index 1]⟩

/-- The path to the first cell of the first row of a shelf. -/
def nutCell : Path :=
  ⟨"rows[0].cells[0]", [.property "rows", .index 0, .property "cells", .index 0]⟩

/-- A row with a bolt in its second cell. -/
def boltRow : Value := .record ⟨.unnamed, [("cells", .list [.null, .string "bolt"])]⟩

/-- The shelf with a bolt in its third row. -/
def bolted : Value := .record ⟨.typed shelfType, [("rows", .list [nutRow, .null, boltRow])]⟩

/-- A bolt that is put into a third row leaves the nut in the first one, and lets the rows grow to
three. -/
theorem bolt_spares_nut :
    (boltCell.writeInto labeller stocked (.string "bolt")).run 0 = ((.ok (), bolted), 1) ∧
      nutCell.read bolted = .ok (.string "nut") ∧
      ∃ position rows, Segment.index 2 = .index position ∧
        Path.readSegments bolted [.property "rows"] = .ok (.list rows) ∧
        Path.Revised position [nutRow] rows := by
  have written : (boltCell.writeInto labeller stocked (.string "bolt")).run 0 =
      ((.ok (), bolted), 1) := rfl
  obtain ⟨elsewhere, lists⟩ :=
    Path.writeInto_spares_elsewhere boltCell labeller stocked (.string "bolt") bolted 0 1 written
  have apart : Path.Diverge boltCell.segments nutCell.segments :=
    .later _ (.here (by decide) _ _)
  exact ⟨written, elsewhere nutCell (.string "nut") apart rfl,
    lists [.property "rows"] (.index 2) [.property "cells", .index 1] [nutRow] rfl rfl⟩

end Remap.Depot
