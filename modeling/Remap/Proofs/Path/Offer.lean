import Remap.Proofs.Path.Slot

/-!
# Offers

An offer is what a write comes to when the value and the way it is fitted are settled: some steps,
and for each declared type what would be stored there. Offers are made one after the other, and each
of them is taken or has no effect.

What offers do to a value can be told slot by slot: of the offers that lead through a slot only the
steps below it matter there. An offer that stands at the end of its steps wins over everything
before it. Where there is none, the offers go on below what the slot holds, or below what the first
one that is taken creates.

Main statement: offers that were made once change nothing when they are made again, however their
steps overlap.
-/

namespace Remap

/-- A value offered to the place at the end of some steps: what would be stored there for a declared
type, if the value fits the type. -/
structure Offer where
  segments : List Segment
  fit : FieldType → Option Value

namespace Offer

section

variable (instantiate : FieldType → Value)

/-- What a write at the end of some steps leaves, if the place takes the value. -/
def storeAt? (fit : FieldType → Option Value) : List Segment → Value → Option Value
  | [], _ => none
  | s :: rest, v =>
    match v.slot? s with
    | none => none
    | some slot =>
      match rest with
      | [] => if slot.writable then (fit slot.declared).map (v.putSlot s) else none
      | next :: _ =>
        if slot.content.isNull && !slot.writable then none
        else
          (storeAt? fit rest (Path.entered instantiate slot.content next slot.declared)).map
            (v.putSlot s)

/-- What is left of a value that takes the offer. -/
def store? (o : Offer) (v : Value) : Option Value := storeAt? instantiate o.fit o.segments v

/-- What a slot holds that takes the offer. -/
def fill? (o : Offer) (slot : Slot) : Option Value :=
  match o.segments with
  | [] => if slot.writable then o.fit slot.declared else none
  | next :: _ =>
    if slot.content.isNull && !slot.writable then none
    else o.store? instantiate (Path.entered instantiate slot.content next slot.declared)

/-- What offers leave of a value when they are made one after the other. -/
def storeAll : List Offer → Value → Value
  | [], v => v
  | o :: rest, v => storeAll rest ((o.store? instantiate v).getD v)

/-- What a slot holds when offers were made to it one after the other, if it took any. -/
def fillAll? : List Offer → Slot → Option Value
  | [], _ => none
  | o :: rest, slot =>
    match o.fill? instantiate slot with
    | none => fillAll? rest slot
    | some w => some ((fillAll? rest (slot.holding w)).getD w)

end

/-- The offers that lead through a slot, with the steps that are left below it. -/
def below (s : Segment) : List Offer → List Offer
  | [] => []
  | ⟨t :: more, fit⟩ :: rest => if t = s then ⟨more, fit⟩ :: below s rest else below s rest
  | ⟨[], _⟩ :: rest => below s rest

/-- The offers that have steps left. -/
def deeper (offers : List Offer) : List Offer := offers.filter fun o => !o.segments.isEmpty

variable {instantiate : FieldType → Value} {offers rest : List Offer} {o : Offer}
  {fit : FieldType → Option Value} {v w : Value} {s t : Segment} {slot : Slot}

/-! ## One offer -/

/-- An offer goes through the slot that its first step leads to. -/
theorem store?_cons {more : List Segment} :
    (Offer.mk (s :: more) fit).store? instantiate v =
      (v.slot? s).bind fun slot =>
        ((Offer.mk more fit).fill? instantiate slot).map (v.putSlot s) := by
  simp only [store?, storeAt?]
  cases v.slot? s with
  | none => rfl
  | some slot =>
    cases more with
    | nil => cases writable : slot.writable <;> simp [fill?, writable]
    | cons next more =>
      simp only [fill?, Option.bind_some]
      split
      · rfl
      · rfl

theorem store?_of_slot?_eq_none {more : List Segment} (lost : v.slot? s = none) :
    (Offer.mk (s :: more) fit).store? instantiate v = none := by
  rw [store?_cons, lost]
  rfl

theorem store?_of_slot? {more : List Segment} (found : v.slot? s = some slot) :
    (Offer.mk (s :: more) fit).store? instantiate v =
      ((Offer.mk more fit).fill? instantiate slot).map (v.putSlot s) := by
  rw [store?_cons, found]
  rfl

theorem fill?_of_end (writable : slot.writable = true) :
    (Offer.mk [] fit).fill? instantiate slot = fit slot.declared := by
  simp only [fill?, writable, if_true]

/-- An offer goes on from what a slot holds, or from what is created there. -/
theorem fill?_of_next {next : Segment} {more : List Segment}
    (creatable : slot.content.isNull = true → slot.writable = true) :
    (Offer.mk (next :: more) fit).fill? instantiate slot =
      (Offer.mk (next :: more) fit).store? instantiate
        (Path.entered instantiate slot.content next slot.declared) := by
  simp only [fill?]
  split
  · next closed =>
    rw [Bool.and_eq_true, Bool.not_eq_true'] at closed
    rw [creatable closed.1] at closed
    cases closed.2
  · rfl

/-- At the place that its steps lead to, an offer stores what it has for the declared type. -/
theorem store?_of_lands {segments : List Segment} {place : Path.Place}
    (lands : Path.Lands instantiate segments v place) :
    (Offer.mk segments fit).store? instantiate v = (fit place.declared).map place.store := by
  induction lands using Path.Lands.induction_on_slots with
  | here s root slot _ found writable => rw [store?_of_slot? found, fill?_of_end writable]
  | under s next more root slot place _ found creatable below ih =>
    rw [store?_of_slot? found, fill?_of_next creatable, ih, Option.map_map]
    rfl

/-- An offer that is taken has steps that lead to a place. -/
theorem exists_lands_of_store? {segments : List Segment}
    (stored : (Offer.mk segments fit).store? instantiate v = some w) :
    ∃ place, Path.Lands instantiate segments v place := by
  induction segments generalizing v w with
  | nil => cases stored
  | cons s more ih =>
    rw [store?_cons, Option.bind_eq_some_iff] at stored
    obtain ⟨slot, found, filled⟩ := stored
    obtain ⟨x, filled, -⟩ := Option.map_eq_some_iff.mp filled
    cases more with
    | nil =>
      simp only [fill?] at filled
      split at filled
      · next writable => exact ⟨_, .at_slot instantiate found writable⟩
      · cases filled
    | cons next more =>
      simp only [fill?] at filled
      split at filled
      · cases filled
      · next creating =>
        obtain ⟨place, lands⟩ := ih filled
        exact ⟨_, lands.under_slot found fun null => by simpa [null] using creating⟩

/-- A write is refused where every offer is, or it stores what it has fitted where offers store what
they have for the declared type. -/
theorem cases_of_writeInto {m : Type → Type} [Monad m] [LawfulMonad m] (path : Path)
    (coercer : Coercer m) (root v : Value) :
    (∃ e, path.writeInto coercer root v = pure (.error e, root) ∧
        ∀ fit, (Offer.mk path.segments fit).store? coercer.instantiate root = none) ∨
      ∃ place : Path.Place,
        path.writeInto coercer root v =
            Path.storeFitted coercer place.declared place.store root v ∧
          ∀ fit, (Offer.mk path.segments fit).store? coercer.instantiate root =
            (fit place.declared).map place.store := by
  by_cases reached : ∃ place, Path.Lands coercer.instantiate path.segments root place
  · obtain ⟨place, lands⟩ := reached
    exact .inr ⟨place, Path.assign_of_lands lands path.text v, fun fit => store?_of_lands lands⟩
  · rcases Path.writeInto_cases path coercer root v with ⟨e, refused⟩ | ⟨place, lands, -⟩
    · refine .inl ⟨e, refused, fun fit => ?_⟩
      rw [Option.eq_none_iff_forall_ne_some]
      intro w stored
      exact reached (exists_lands_of_store? stored)
    · exact absurd ⟨place, lands⟩ reached

/-- A value that takes an offer is a container, and so is what is left of it. -/
theorem exists_putSlot_of_store? (stored : o.store? instantiate v = some w) :
    ∃ s slot x, v.slot? s = some slot ∧ w = v.putSlot s x := by
  obtain ⟨segments, fit⟩ := o
  cases segments with
  | nil => cases stored
  | cons s more =>
    rw [store?_cons, Option.bind_eq_some_iff] at stored
    obtain ⟨slot, found, filled⟩ := stored
    obtain ⟨x, -, equal⟩ := Option.map_eq_some_iff.mp filled
    exact ⟨s, slot, x, found, equal.symm⟩

theorem isNull_of_store? (stored : o.store? instantiate v = some w) : w.isNull = false := by
  obtain ⟨s, slot, x, found, rfl⟩ := exists_putSlot_of_store? stored
  rcases Value.slot?_cases found with ⟨r, name, rfl, rfl, -⟩ | ⟨items, position, rfl, rfl, -⟩
  · rfl
  · rfl

theorem storeAll_append (offers more : List Offer) (v : Value) :
    storeAll instantiate (offers ++ more) v =
      storeAll instantiate more (storeAll instantiate offers v) := by
  induction offers generalizing v with
  | nil => rfl
  | cons o rest ih => exact ih _

/-! ## Offers slot by slot -/

/-- The first of several offers is not taken, which can be told in every slot, or it stores
something to one slot, and there the offers below go on from it. -/
theorem storeAll_cons_cases (instantiate : FieldType → Value) (o : Offer) (rest : List Offer)
    (v : Value) :
    (storeAll instantiate (o :: rest) v = storeAll instantiate rest v ∧
        ∀ s slot, v.slot? s = some slot →
          fillAll? instantiate (below s (o :: rest)) slot =
            fillAll? instantiate (below s rest) slot) ∨
      ∃ t slot w, v.slot? t = some slot ∧
        storeAll instantiate (o :: rest) v = storeAll instantiate rest (v.putSlot t w) ∧
        fillAll? instantiate (below t (o :: rest)) slot =
          some ((fillAll? instantiate (below t rest) (slot.holding w)).getD w) ∧
        ∀ s, s ≠ t → below s (o :: rest) = below s rest := by
  obtain ⟨segments, fit⟩ := o
  cases segments with
  | nil => exact .inl ⟨rfl, fun _ _ _ => rfl⟩
  | cons t more =>
    have elsewhere : ∀ s, s ≠ t → below s (⟨t :: more, fit⟩ :: rest) = below s rest := by
      intro s different
      rw [below, if_neg different.symm]
    have here : below t (⟨t :: more, fit⟩ :: rest) = ⟨more, fit⟩ :: below t rest := by
      rw [below, if_pos rfl]
    cases found : v.slot? t with
    | none =>
      refine .inl ⟨by rw [storeAll, store?_of_slot?_eq_none found]; rfl, ?_⟩
      intro s slot there
      have different : s ≠ t := by
        rintro rfl
        cases found.symm.trans there
      rw [elsewhere s different]
    | some slot =>
      cases filled : (Offer.mk more fit).fill? instantiate slot with
      | none =>
        refine .inl ⟨by rw [storeAll, store?_of_slot? found, filled]; rfl, ?_⟩
        intro s slot' there
        by_cases same : s = t
        · subst same
          cases found.symm.trans there
          rw [here, fillAll?, filled]
        · rw [elsewhere s same]
      | some w =>
        refine .inr ⟨t, slot, w, found, ?_, ?_, elsewhere⟩
        · rw [storeAll, store?_of_slot? found, filled]
          rfl
        · rw [here, fillAll?, filled]

/-- Offers leave in each slot what the offers below it come to. -/
theorem slot?_storeAll (offers : List Offer) (found : v.slot? s = some slot) :
    (storeAll instantiate offers v).slot? s =
      some (slot.holding
        ((fillAll? instantiate (below s offers) slot).getD slot.content)) := by
  induction offers generalizing v slot with
  | nil => exact found
  | cons o rest ih =>
    rcases storeAll_cons_cases instantiate o rest v with
      ⟨stored, slots⟩ | ⟨t, there, w, foundThere, stored, filled, elsewhere⟩
    · rw [stored, slots s slot found, ih found]
    · rw [stored]
      by_cases same : s = t
      · subst same
        cases found.symm.trans foundThere
        rw [filled, ih (Value.slot?_putSlot_self found w)]
        rfl
      · rw [elsewhere s same]
        exact ih ((Value.slot?_putSlot_of_ne same w).trans found)

/-- Offers add no slots. -/
theorem exists_slot?_of_storeAll (found : (storeAll instantiate offers v).slot? s = some slot) :
    ∃ before, v.slot? s = some before := by
  induction offers generalizing v with
  | nil => exact ⟨slot, found⟩
  | cons o rest ih =>
    rcases storeAll_cons_cases instantiate o rest v with
      ⟨stored, -⟩ | ⟨t, there, w, foundThere, stored, -, -⟩
    · exact ih (stored ▸ found)
    · by_cases same : s = t
      · exact ⟨there, same ▸ foundThere⟩
      · obtain ⟨before, start⟩ := ih (stored ▸ found)
        exact ⟨before, (Value.slot?_putSlot_of_ne same w).symm.trans start⟩

/-- Offers store to the slots that take one of the offers below them, and to no others. -/
theorem puts_storeAll (offers : List Offer) (v : Value) :
    Value.Puts
      (fun s => ∃ slot, v.slot? s = some slot ∧
        (fillAll? instantiate (below s offers) slot).isSome = true)
      v (storeAll instantiate offers v) := by
  induction offers generalizing v with
  | nil => exact .refl v
  | cons o rest ih =>
    rcases storeAll_cons_cases instantiate o rest v with
      ⟨stored, slots⟩ | ⟨t, there, w, found, stored, filled, elsewhere⟩
    · rw [stored]
      refine (ih v).mono ?_
      rintro s ⟨slot, found, taken⟩
      exact ⟨slot, found, by rwa [slots s slot found]⟩
    · rw [stored]
      have taken : ∃ slot, v.slot? t = some slot ∧
          (fillAll? instantiate (below t (o :: rest)) slot).isSome = true :=
        ⟨there, found, by rw [filled]; rfl⟩
      refine .put t w found taken ((ih (v.putSlot t w)).mono ?_)
      rintro s ⟨slot, foundAfter, takenAfter⟩
      by_cases same : s = t
      · rw [same]
        exact taken
      · rw [Value.slot?_putSlot_of_ne same w] at foundAfter
        exact ⟨slot, foundAfter, by rwa [elsewhere s same]⟩

/-- A slot that took an offer holds something afterwards. -/
theorem isSome_held?_storeAll (found : v.slot? s = some slot)
    (taken : (fillAll? instantiate (below s offers) slot).isSome = true) :
    ((storeAll instantiate offers v).held? s).isSome = true := by
  induction offers generalizing v slot with
  | nil => cases taken
  | cons o rest ih =>
    rcases storeAll_cons_cases instantiate o rest v with
      ⟨stored, slots⟩ | ⟨t, there, w, foundThere, stored, filled, elsewhere⟩
    · rw [stored]
      exact ih found (by rwa [← slots s slot found])
    · rw [stored]
      by_cases same : s = t
      · subst same
        have put : ((v.putSlot s w).held? s).isSome = true := by
          rw [Value.held?_putSlot_self found w]
          rfl
        exact (puts_storeAll rest (v.putSlot s w)).isSome_held? put
      · exact ih ((Value.slot?_putSlot_of_ne same w).trans found) (by rwa [← elsewhere s same])

/-! ## Offers to one slot -/

/-- An offer without steps left does not look at what a slot holds. -/
theorem fill?_holding_of_end (v : Value) :
    (Offer.mk [] fit).fill? instantiate (slot.holding v) =
      (Offer.mk [] fit).fill? instantiate slot := rfl

/-- A slot that takes an offer without steps left ends up with the same, whatever it held. -/
theorem fillAll?_of_end
    (taken : ∃ fit, ⟨[], fit⟩ ∈ offers ∧ ((Offer.mk [] fit).fill? instantiate slot).isSome = true) :
    ∃ u, ∀ v, fillAll? instantiate offers (slot.holding v) = some u := by
  obtain ⟨fit, member, taken⟩ := taken
  induction offers with
  | nil => cases member
  | cons o rest ih =>
    by_cases later : ⟨[], fit⟩ ∈ rest
    · obtain ⟨u, settled⟩ := ih later
      refine ⟨u, fun v => ?_⟩
      rw [fillAll?]
      cases o.fill? instantiate (slot.holding v) with
      | none => exact settled v
      | some w => simp only [Slot.holding_holding, settled w, Option.getD_some]
    · have first : o = ⟨[], fit⟩ := by
        rcases List.mem_cons.mp member with equal | behind
        · exact equal.symm
        · exact absurd behind later
      obtain ⟨w, filled⟩ := Option.isSome_iff_exists.mp taken
      refine ⟨(fillAll? instantiate rest (slot.holding w)).getD w, fun v => ?_⟩
      rw [first, fillAll?, fill?_holding_of_end, filled]
      rfl

/-- The slot takes none of the offers that have no steps left. -/
def Open (instantiate : FieldType → Value) (offers : List Offer) (slot : Slot) : Prop :=
  ∀ fit, ⟨[], fit⟩ ∈ offers → (Offer.mk [] fit).fill? instantiate slot = none

theorem Open.tail (free : Open instantiate (o :: rest) slot) : Open instantiate rest slot :=
  fun fit member => free fit (List.mem_cons_of_mem o member)

theorem Open.fillAll?_cons_end (free : Open instantiate (⟨[], fit⟩ :: rest) slot) (v : Value) :
    fillAll? instantiate (⟨[], fit⟩ :: rest) (slot.holding v) =
      fillAll? instantiate rest (slot.holding v) := by
  rw [fillAll?, fill?_holding_of_end, free fit List.mem_cons_self]

theorem deeper_cons_end : deeper (⟨[], fit⟩ :: rest) = deeper rest := rfl

theorem deeper_cons_next {more : List Segment} :
    deeper (⟨s :: more, fit⟩ :: rest) = ⟨s :: more, fit⟩ :: deeper rest := rfl

/-- What a slot holds takes the offers that have steps left. -/
theorem fillAll?_of_present (free : Open instantiate offers slot) (present : v.isNull = false) :
    (fillAll? instantiate offers (slot.holding v)).getD v =
      storeAll instantiate (deeper offers) v := by
  induction offers generalizing v with
  | nil => rfl
  | cons o rest ih =>
    obtain ⟨segments, fit⟩ := o
    cases segments with
    | nil => rw [free.fillAll?_cons_end, deeper_cons_end, ih free.tail present]
    | cons next more =>
      have through : (Offer.mk (next :: more) fit).fill? instantiate (slot.holding v) =
          (Offer.mk (next :: more) fit).store? instantiate v := by
        have content : (slot.holding v).content.isNull = false := present
        rw [fill?_of_next (by rw [content]; exact Bool.noConfusion),
          Path.entered_of_isNull_eq_false content]
        rfl
      rw [deeper_cons_next, storeAll, fillAll?, through]
      cases stored : (Offer.mk (next :: more) fit).store? instantiate v with
      | none => exact ih free.tail present
      | some w => exact ih free.tail (isNull_of_store? stored)

/-- Only offers that go on in the same way are taken by what is created for an offer. -/
theorem store?_intermediate_of_ne_some (records : ∀ t, ∃ r, instantiate t = .record r)
    {declared : FieldType} {next other : Segment} {more : List Segment}
    (refused : (Offer.mk (next :: more) fit).store? instantiate
      (Path.intermediate instantiate next declared) = none) :
    (Offer.mk (next :: more) fit).store? instantiate
      (Path.intermediate instantiate other declared) = none := by
  obtain ⟨r, created⟩ := records declared
  cases next with
  | property name =>
    cases other with
    | property => exact refused
    | index => exact store?_of_slot?_eq_none rfl
  | index position =>
    cases other with
    | index => exact refused
    | property =>
      refine store?_of_slot?_eq_none ?_
      rw [Path.intermediate, created]
      rfl

/-- Where nothing is held and nothing may be stored, no offer is taken. -/
theorem fillAll?_of_closed (null : slot.content.isNull = true) (closed : slot.writable = false) :
    fillAll? instantiate offers slot = none := by
  induction offers with
  | nil => rfl
  | cons o rest ih =>
    have refused : o.fill? instantiate slot = none := by
      simp only [fill?, null, closed]
      split <;> rfl
    rw [fillAll?, refused]
    exact ih

/-- A slot that holds nothing takes no offer, or it ends up as if what one of them creates had been
there from the start. -/
theorem fillAll?_of_null (records : ∀ t, ∃ r, instantiate t = .record r)
    (free : Open instantiate offers slot) (null : slot.content.isNull = true) :
    fillAll? instantiate offers slot = none ∨
      ∃ next, fillAll? instantiate offers slot =
        some (storeAll instantiate (deeper offers)
          (Path.intermediate instantiate next slot.declared)) := by
  cases writable : slot.writable with
  | false => exact .inl (fillAll?_of_closed null writable)
  | true =>
    induction offers with
    | nil => exact .inl rfl
    | cons o rest ih =>
      obtain ⟨segments, fit⟩ := o
      cases segments with
      | nil =>
        have same := free.fillAll?_cons_end slot.content
        rw [Slot.holding_content] at same
        rw [same]
        exact ih free.tail
      | cons next more =>
        have through : (Offer.mk (next :: more) fit).fill? instantiate slot =
            (Offer.mk (next :: more) fit).store? instantiate
              (Path.intermediate instantiate next slot.declared) := by
          rw [fill?_of_next fun _ => writable, Path.entered, if_pos null]
        rw [deeper_cons_next, fillAll?, through]
        cases stored : (Offer.mk (next :: more) fit).store? instantiate
            (Path.intermediate instantiate next slot.declared) with
        | none =>
          rcases ih free.tail with untouched | ⟨other, filled⟩
          · exact .inl untouched
          · refine .inr ⟨other, filled.trans ?_⟩
            rw [storeAll, store?_intermediate_of_ne_some records stored]
            rfl
        | some w =>
          refine .inr ⟨next, ?_⟩
          rw [storeAll, stored]
          exact congrArg some (fillAll?_of_present free.tail (isNull_of_store? stored))

/-! ## Making offers again -/

/-- What takes offers stays something. -/
theorem isNull_storeAll (present : v.isNull = false) :
    (storeAll instantiate offers v).isNull = false := by
  induction offers generalizing v with
  | nil => exact present
  | cons o rest ih =>
    rw [storeAll]
    cases stored : o.store? instantiate v with
    | none => exact ih present
    | some w => exact ih (isNull_of_store? stored)

theorem isNull_intermediate (records : ∀ t, ∃ r, instantiate t = .record r) (next : Segment)
    (declared : FieldType) : (Path.intermediate instantiate next declared).isNull = false := by
  cases next with
  | property =>
    obtain ⟨r, created⟩ := records declared
    rw [Path.intermediate, created]
    rfl
  | index => rfl

/-- A slot that took offers, none of them at its end, holds what the offers with steps left came
to. -/
theorem Open.filled (records : ∀ t, ∃ r, instantiate t = .record r)
    (free : Open instantiate offers slot) {u : Value}
    (filled : fillAll? instantiate offers slot = some u) :
    ∃ x, x.isNull = false ∧ u = storeAll instantiate (deeper offers) x := by
  cases null : slot.content.isNull with
  | false =>
    have whole := fillAll?_of_present free null
    rw [Slot.holding_content, filled] at whole
    exact ⟨slot.content, null, whole⟩
  | true =>
    rcases fillAll?_of_null records free null with untouched | ⟨next, created⟩
    · cases untouched.symm.trans filled
    · exact ⟨_, isNull_intermediate records next slot.declared,
        Option.some.inj (filled.symm.trans created)⟩

/-- A slot that took offers and takes them again holds the same after the second time, if offers
with steps left change nothing the second time. -/
theorem fillAll?_again (records : ∀ t, ∃ r, instantiate t = .record r) {u w : Value}
    (again : ∀ v, storeAll instantiate (deeper offers) (storeAll instantiate (deeper offers) v) =
      storeAll instantiate (deeper offers) v)
    (first : fillAll? instantiate offers slot = some u)
    (second : fillAll? instantiate offers (slot.holding u) = some w) : w = u := by
  by_cases ended : ∃ fit, ⟨[], fit⟩ ∈ offers ∧
      ((Offer.mk [] fit).fill? instantiate slot).isSome = true
  · obtain ⟨last, settled⟩ := fillAll?_of_end ended
    have before := settled slot.content
    rw [Slot.holding_content, first] at before
    rw [settled u] at second
    exact (Option.some.inj second).symm.trans (Option.some.inj before).symm
  · have free : Open instantiate offers slot := by
      intro fit member
      rw [← Option.not_isSome_iff_eq_none]
      exact fun taken => ended ⟨fit, member, taken⟩
    obtain ⟨x, present, equal⟩ := free.filled records first
    have whole : (fillAll? instantiate offers (slot.holding u)).getD u =
        storeAll instantiate (deeper offers) u := by
      refine fillAll?_of_present free ?_
      rw [equal]
      exact isNull_storeAll present
    rw [second, Option.getD_some] at whole
    rw [whole, equal, again]

/-- Below a slot there are fewer steps left. -/
theorem length_below {n : Nat} (bounded : ∀ o ∈ offers, o.segments.length < n + 1) :
    ∀ o ∈ below s offers, o.segments.length < n := by
  induction offers with
  | nil => intro o member; cases member
  | cons first rest ih =>
    have behind := ih fun o member => bounded o (List.mem_cons_of_mem first member)
    obtain ⟨segments, fit⟩ := first
    cases segments with
    | nil => exact behind
    | cons t more =>
      intro o member
      rw [below] at member
      split at member
      · rcases List.mem_cons.mp member with rfl | later
        · have long := bounded ⟨t :: more, fit⟩ List.mem_cons_self
          exact Nat.lt_of_succ_lt_succ long
        · exact behind o later
      · exact behind o member

theorem exists_length_lt (offers : List Offer) : ∃ n, ∀ o ∈ offers, o.segments.length < n := by
  induction offers with
  | nil => exact ⟨0, fun o member => by cases member⟩
  | cons first rest ih =>
    obtain ⟨n, bounded⟩ := ih
    refine ⟨max n (first.segments.length + 1), fun o member => ?_⟩
    rcases List.mem_cons.mp member with rfl | behind
    · omega
    · have short := bounded o behind
      omega

/-- Offers that were made once change nothing when they are made again. -/
theorem storeAll_storeAll (records : ∀ t, ∃ r, instantiate t = .record r) (offers : List Offer)
    (v : Value) :
    storeAll instantiate offers (storeAll instantiate offers v) =
      storeAll instantiate offers v := by
  obtain ⟨n, bounded⟩ := exists_length_lt offers
  -- The induction goes down the steps: below a slot the longest offer is shorter.
  induction n generalizing offers v with
  | zero =>
    cases offers with
    | nil => rfl
    | cons o rest => exact absurd (bounded o List.mem_cons_self) (Nat.not_lt_zero _)
  | succ n ih =>
    have again (s : Segment) (x : Value) :
        storeAll instantiate (deeper (below s offers))
            (storeAll instantiate (deeper (below s offers)) x) =
          storeAll instantiate (deeper (below s offers)) x :=
      ih _ x fun o member => length_below bounded o (List.mem_filter.mp member).1
    -- A slot that takes offers the second time took some the first time.
    have twice : ∀ s slot, (storeAll instantiate offers v).slot? s = some slot →
        (fillAll? instantiate (below s offers) slot).isSome = true →
        ((storeAll instantiate offers v).held? s).isSome = true ∧
          fillAll? instantiate (below s offers) slot = some slot.content := by
      intro s slot found taken
      obtain ⟨before, start⟩ := exists_slot?_of_storeAll found
      have equal : slot =
          before.holding ((fillAll? instantiate (below s offers) before).getD before.content) :=
        Option.some.inj (found.symm.trans (slot?_storeAll offers start))
      cases first : fillAll? instantiate (below s offers) before with
      | none =>
        rw [first, Option.getD_none, Slot.holding_content] at equal
        rw [equal, first] at taken
        cases taken
      | some u =>
        rw [first, Option.getD_some] at equal
        obtain ⟨w, second⟩ := Option.isSome_iff_exists.mp taken
        have settled : w = u := by
          rw [equal] at second
          exact fillAll?_again records (again s) first second
        refine ⟨isSome_held?_storeAll start (by rw [first]; rfl), ?_⟩
        rw [second, settled, equal]
        rfl
    refine (puts_storeAll offers (storeAll instantiate offers v)).eq_of_slot? ?_ ?_
    · rintro s ⟨slot, found, taken⟩
      exact (twice s slot found taken).1
    · rintro s ⟨slot, found, taken⟩
      refine ⟨slot, found, ?_⟩
      rw [slot?_storeAll offers found, (twice s slot found taken).2]
      rfl

end Offer

end Remap
