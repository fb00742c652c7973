import Remap.Proofs.Path.Place

/-!
# Slots

A record has a slot for each field that it takes, and a list one for each position within reach.
What a store below a value may do there depends on the slot and on nothing else that the value
holds, so the steps of a write can be told from slot to slot, for records and lists alike. `Puts`
says that a value comes of another one by storing to slots again and again.

Main statement: such stores change nothing if they end with every slot as it was and touch only
slots that held something.
-/

namespace Remap

/-! ## Fields stored again and again -/

namespace Fields

variable {α : Type}

/-- Fields that come of others by storing. -/
inductive Stored : List (String × α) → List (String × α) → Prop
  | refl (fields : List (String × α)) : Stored fields fields
  | put (name : String) (a : α) {before after : List (String × α)}
      (more : Stored (put before name a) after) : Stored before after

namespace Stored

variable {before after : List (String × α)}

theorem isSome_get? (stored : Stored before after) {name : String}
    (present : (get? before name).isSome = true) : (get? after name).isSome = true := by
  induction stored with
  | refl => exact present
  | @put other a before after more ih =>
    apply ih
    by_cases same : name = other
    · rw [same, get?_put_self]
      rfl
    · rw [get?_put_of_ne before a same]
      exact present

/-- The first field keeps its name, and stores to other names go on behind it. -/
theorem of_cons {n : String} {b : α} {rest : List (String × α)}
    (stored : Stored ((n, b) :: rest) after) :
    ∃ b' rest', after = (n, b') :: rest' ∧ Stored rest rest' ∧ get? rest' n = get? rest n := by
  generalize start : (n, b) :: rest = fields at stored
  induction stored generalizing b rest with
  | refl => exact ⟨b, rest, start.symm, .refl rest, rfl⟩
  | put name a more ih =>
    subst start
    by_cases same : n = name
    · have here : (n, a) :: rest = Fields.put ((n, b) :: rest) name a := by
        simp only [Fields.put, same, if_true]
      exact ih here
    · have behind : (n, b) :: Fields.put rest name a = Fields.put ((n, b) :: rest) name a := by
        simp only [Fields.put, same, if_false]
      obtain ⟨b', rest', equal, stored, kept⟩ := ih behind
      refine ⟨b', rest', equal, .put name a stored, kept.trans ?_⟩
      exact get?_put_of_ne rest a same

/-- Stores that end with every name holding what it held have changed nothing. -/
theorem eq_of_get? (stored : Stored before after)
    (same : ∀ name, get? after name = get? before name) : after = before := by
  induction before generalizing after with
  | nil =>
    cases stored with
    | refl => rfl
    | put name a more =>
      have there : (get? (Fields.put ([] : List (String × α)) name a) name).isSome = true := by
        simp [get?_put_self]
      have present := more.isSome_get? there
      rw [same name] at present
      cases present
  | cons first rest ih =>
    obtain ⟨n, b⟩ := first
    obtain ⟨b', rest', rfl, behind, kept⟩ := stored.of_cons
    have head : b' = b := by simpa [get?] using same n
    have tail : rest' = rest := by
      refine ih behind fun name => ?_
      by_cases here : n = name
      · rw [← here, kept]
      · simpa [get?, here] using same name
    rw [head, tail]

end Stored

end Fields

/-! ## Slots of a value -/

/-- A place right below a value: its declared type, whether it may be written, and what it holds,
which is null if nothing is there. -/
structure Slot where
  declared : FieldType
  writable : Bool
  content : Value

/-- The slot with another content. -/
def Slot.holding (slot : Slot) (w : Value) : Slot := { slot with content := w }

@[simp] theorem Slot.holding_content (slot : Slot) : slot.holding slot.content = slot := rfl

@[simp] theorem Slot.holding_holding (slot : Slot) (v w : Value) :
    (slot.holding v).holding w = slot.holding w := rfl

namespace Value

/-- The slot that a step leads to. A record has the slots of the fields that it takes, a list those
within reach. -/
def slot? : Value → Segment → Option Slot
  | .record r, .property name =>
    if r.accepts name then
      some ⟨r.declaredType name, r.isWritable name, Path.fieldContent r name⟩
    else none
  | .list items, .index position =>
    if position < Path.growthLimit then some ⟨.any, true, Path.itemContent items position⟩ else none
  | _, _ => none

/-- What is there one step below a value. -/
def held? : Value → Segment → Option Value
  | .record r, .property name => r.get? name
  | .list items, .index position => items[position]?
  | _, _ => none

/-- The value with something stored one step below. -/
def putSlot : Value → Segment → Value → Value
  | .record r, .property name, w => .record (r.put name w)
  | .list items, .index position, w => .list (Path.setItem items position w)
  | v, _, _ => v

variable {v w : Value} {s t : Segment} {slot : Slot}

theorem slot?_record {r : Record} {name : String} (accepted : r.accepts name = true) :
    (Value.record r).slot? (.property name) =
      some ⟨r.declaredType name, r.isWritable name, Path.fieldContent r name⟩ := by
  simp [slot?, accepted]

theorem slot?_list {items : List Value} {position : Nat} (near : position < Path.growthLimit) :
    (Value.list items).slot? (.index position) =
      some ⟨.any, true, Path.itemContent items position⟩ := by
  simp [slot?, near]

/-- The slots of a value, by the two kinds of values that have some. -/
theorem slot?_cases (found : v.slot? s = some slot) :
    (∃ r name, v = .record r ∧ s = .property name ∧ r.accepts name = true ∧
      slot = ⟨r.declaredType name, r.isWritable name, Path.fieldContent r name⟩) ∨
    ∃ items position, v = .list items ∧ s = .index position ∧ position < Path.growthLimit ∧
      slot = ⟨.any, true, Path.itemContent items position⟩ := by
  unfold slot? at found
  split at found
  · next r name =>
    split at found
    · next accepted =>
      cases found
      exact .inl ⟨r, name, rfl, rfl, accepted, rfl⟩
    · cases found
  · next items position =>
    split at found
    · next near =>
      cases found
      exact .inr ⟨items, position, rfl, rfl, near, rfl⟩
    · cases found
  · cases found

theorem content_eq (found : v.slot? s = some slot) : slot.content = (v.held? s).getD .null := by
  rcases slot?_cases found with ⟨r, name, rfl, rfl, -, rfl⟩ | ⟨items, position, rfl, rfl, -, rfl⟩
  · rfl
  · rfl

theorem held?_eq_content (found : v.slot? s = some slot) (present : (v.held? s).isSome = true) :
    v.held? s = some slot.content := by
  obtain ⟨content, there⟩ := Option.isSome_iff_exists.mp present
  rw [content_eq found, there]
  rfl

/-! ## Stores to one slot -/

theorem slot?_putSlot_self (found : v.slot? s = some slot) (w : Value) :
    (v.putSlot s w).slot? s = some (slot.holding w) := by
  rcases slot?_cases found with
    ⟨r, name, rfl, rfl, accepted, rfl⟩ | ⟨items, position, rfl, rfl, near, rfl⟩
  · rw [putSlot, slot?_record (by simpa using accepted)]
    simp [Path.fieldContent, Slot.holding]
  · rw [putSlot, slot?_list near]
    simp [Path.itemContent, Slot.holding]

theorem itemContent_setItem_of_ne {items : List Value} {position other : Nat} (w : Value)
    (different : other ≠ position) :
    Path.itemContent (Path.setItem items position w) other = Path.itemContent items other := by
  simp only [Path.itemContent, Path.getElem?_setItem, different, if_false]
  split
  · rfl
  · -- What lies beyond the list counts as null, and so does what fills it up.
    next outside =>
    rw [List.getElem?_eq_none (Nat.le_of_not_lt outside)]
    split <;> rfl

/-- The second of two contents that are stored in a slot stays. -/
theorem putSlot_putSlot (v : Value) (s : Segment) (a b : Value) :
    (v.putSlot s a).putSlot s b = v.putSlot s b := by
  cases v with
  | record r =>
    cases s with
    | index => rfl
    | property name => exact congrArg Value.record (RecordOf.put_put r name a b)
  | list items =>
    cases s with
    | property => rfl
    | index position => exact congrArg Value.list (Path.setItem_setItem items position a b)
  | _ => rfl

theorem slot?_putSlot_of_ne (different : t ≠ s) (w : Value) :
    (v.putSlot s w).slot? t = v.slot? t := by
  cases v with
  | record r =>
    cases s with
    | index => rfl
    | property name =>
      cases t with
      | index => rfl
      | property other =>
        have other_ne : other ≠ name := fun same => different (congrArg Segment.property same)
        simp only [putSlot, slot?, RecordOf.accepts_put, RecordOf.declaredType_put,
          RecordOf.isWritable_put, Path.fieldContent, RecordOf.get?_put_of_ne r w other_ne]
  | list items =>
    cases s with
    | property => rfl
    | index position =>
      cases t with
      | property => rfl
      | index other =>
        have other_ne : other ≠ position := fun same => different (congrArg Segment.index same)
        simp only [putSlot, slot?, itemContent_setItem_of_ne w other_ne]
  | _ => rfl

theorem held?_putSlot_self (found : v.slot? s = some slot) (w : Value) :
    (v.putSlot s w).held? s = some w := by
  rcases slot?_cases found with ⟨r, name, rfl, rfl, -, -⟩ | ⟨items, position, rfl, rfl, -, -⟩
  · exact RecordOf.get?_put_self r name w
  · exact Path.getElem?_setItem_self items position w

/-- A store to a slot that held something leaves what is there elsewhere. -/
theorem held?_putSlot_of_ne (present : (v.held? s).isSome = true) (different : t ≠ s) (w : Value) :
    (v.putSlot s w).held? t = v.held? t := by
  cases v with
  | record r =>
    cases s with
    | index => rfl
    | property name =>
      cases t with
      | index => rfl
      | property other =>
        exact RecordOf.get?_put_of_ne r w fun same => different (congrArg Segment.property same)
  | list items =>
    cases s with
    | property => rfl
    | index position =>
      cases t with
      | property => rfl
      | index other =>
        obtain ⟨a, there⟩ := Option.isSome_iff_exists.mp present
        have inside : position < items.length := (List.getElem?_eq_some_iff.mp there).1
        have other_ne : position ≠ other := fun same => different (congrArg Segment.index same.symm)
        simp only [putSlot, held?, Path.setItem, inside, if_true]
        exact List.getElem?_set_ne other_ne
  | _ => rfl

/-- What is there stays there or is replaced. -/
theorem isSome_held?_putSlot (present : (v.held? t).isSome = true) (s : Segment) (w : Value) :
    ((v.putSlot s w).held? t).isSome = true := by
  cases v with
  | record r =>
    cases s with
    | index => exact present
    | property name =>
      cases t with
      | index => exact present
      | property other =>
        by_cases same : other = name
        · simp [putSlot, held?, same]
        · simp only [putSlot, held?, RecordOf.get?_put_of_ne r w same]
          exact present
  | list items =>
    cases s with
    | property => exact present
    | index position =>
      cases t with
      | property => exact present
      | index other =>
        by_cases same : other = position
        · simp [putSlot, held?, same]
        · obtain ⟨a, there⟩ := Option.isSome_iff_exists.mp present
          have inside : other < items.length := (List.getElem?_eq_some_iff.mp there).1
          simp only [putSlot, held?, Path.getElem?_setItem_of_ne w same inside]
          exact present
  | _ => exact present

/-! ## Stores to many slots -/

/-- A value that comes of another one by stores to the slots that are told. -/
inductive Puts (told : Segment → Prop) : Value → Value → Prop
  | refl (v : Value) : Puts told v v
  | put (s : Segment) (w : Value) {v after : Value} {slot : Slot} (found : v.slot? s = some slot)
      (among : told s) (more : Puts told (v.putSlot s w) after) : Puts told v after

namespace Puts

variable {told more : Segment → Prop} {after : Value}

theorem mono (puts : Puts told v after) (wider : ∀ s, told s → more s) : Puts more v after := by
  induction puts with
  | refl v => exact .refl v
  | put s w found among _ ih => exact .put s w found (wider s among) ih

/-- Where nothing is stored, stores to slots that held something leave what is there. -/
theorem held?_of_not (puts : Puts told v after)
    (present : ∀ s, told s → (v.held? s).isSome = true) (apart : ¬ told t) :
    after.held? t = v.held? t := by
  induction puts with
  | refl => rfl
  | @put s w v after slot found among _ ih =>
    have different : t ≠ s := by
      rintro rfl
      exact apart among
    rw [ih fun other member => isSome_held?_putSlot (present other member) s w]
    exact held?_putSlot_of_ne (present s among) different w

theorem isSome_held? (puts : Puts told v after) (present : (v.held? t).isSome = true) :
    (after.held? t).isSome = true := by
  induction puts with
  | refl => exact present
  | put s w _ _ _ ih => exact ih (isSome_held?_putSlot present s w)

/-- Stores to slots leave a record a record with the same shape. -/
theorem of_record {r : Record} (puts : Puts told (.record r) after) :
    ∃ s : Record, after = .record s ∧ s.shape = r.shape ∧ Fields.Stored r.fields s.fields := by
  generalize start : Value.record r = v at puts
  induction puts generalizing r with
  | refl => exact ⟨r, start.symm, rfl, .refl _⟩
  | put s w found among _ ih =>
    subst start
    rcases slot?_cases found with ⟨r', name, equal, rfl, -, -⟩ | ⟨items, position, equal, -⟩
    · cases equal
      obtain ⟨last, rfl, shape, stored⟩ := ih (r := r.put name w) rfl
      exact ⟨last, rfl, shape, .put name w stored⟩
    · cases equal

theorem of_list {items : List Value} (puts : Puts told (.list items) after) :
    ∃ items' : List Value, after = .list items' := by
  generalize start : Value.list items = v at puts
  induction puts generalizing items with
  | refl => exact ⟨items, start.symm⟩
  | put s w found among _ ih =>
    subst start
    rcases slot?_cases found with ⟨r, name, equal, -⟩ | ⟨items', position, equal, rfl, -⟩
    · cases equal
    · cases equal
      exact ih rfl

/-- Stores change nothing if each slot that was stored to held something and holds the same in the
end. -/
theorem eq_of_slot? (puts : Puts told v after)
    (present : ∀ s, told s → (v.held? s).isSome = true)
    (same : ∀ s, told s → ∃ slot, v.slot? s = some slot ∧ after.slot? s = some slot) :
    after = v := by
  have held : ∀ s, after.held? s = v.held? s := by
    intro s
    by_cases among : told s
    · obtain ⟨slot, before, behind⟩ := same s among
      have there := present s among
      rw [held?_eq_content before there, held?_eq_content behind (puts.isSome_held? there)]
    · exact puts.held?_of_not present among
  cases v with
  | record r =>
    obtain ⟨last, rfl, shape, stored⟩ := puts.of_record
    have fields : last.fields = r.fields :=
      stored.eq_of_get? fun name => held (.property name)
    cases last
    cases r
    cases shape
    cases fields
    rfl
  | list items =>
    obtain ⟨last, rfl⟩ := puts.of_list
    have items_eq : last = items := List.ext_getElem? fun position => held (.index position)
    rw [items_eq]
  | _ =>
    cases puts with
    | refl => rfl
    | put s w found => cases s <;> cases found

end Puts

end Value

/-! ## Walks from slot to slot -/

namespace Path

variable {instantiate : FieldType → Value} {segments more : List Segment} {s next : Segment}
  {root a : Value} {place : Place} {slot : Slot}

theorem Lands.at_slot (instantiate : FieldType → Value) (found : root.slot? s = some slot)
    (writable : slot.writable = true) :
    Lands instantiate [s] root ⟨slot.declared, root.putSlot s⟩ := by
  rcases Value.slot?_cases found with
    ⟨r, name, rfl, rfl, accepted, rfl⟩ | ⟨items, position, rfl, rfl, near, rfl⟩
  · exact .field r name accepted writable
  · exact .item items position near

theorem Lands.under_slot
    (below : Lands instantiate (next :: more)
      (entered instantiate slot.content next slot.declared) place)
    (found : root.slot? s = some slot)
    (creatable : slot.content.isNull = true → slot.writable = true) :
    Lands instantiate (s :: next :: more) root
      ⟨place.declared, fun w => root.putSlot s (place.store w)⟩ := by
  rcases Value.slot?_cases found with
    ⟨r, name, rfl, rfl, accepted, rfl⟩ | ⟨items, position, rfl, rfl, near, rfl⟩
  · exact .underField r name next more place accepted creatable below
  · exact .underItem items position next more place near below

/-- Steps lead from slot to slot. What holds of a place in a slot, and of a place below a slot if it
holds below what is entered there, holds of every place that steps lead to. -/
theorem Lands.induction_on_slots
    {motive : ∀ segments root place, Lands instantiate segments root place → Prop}
    (here : ∀ s root slot lands, root.slot? s = some slot → slot.writable = true →
      motive [s] root ⟨slot.declared, root.putSlot s⟩ lands)
    (under : ∀ s next more root slot place lands, root.slot? s = some slot →
      (slot.content.isNull = true → slot.writable = true) →
      ∀ below : Lands instantiate (next :: more)
        (entered instantiate slot.content next slot.declared) place,
      motive _ _ _ below → motive (s :: next :: more) root
        ⟨place.declared, fun w => root.putSlot s (place.store w)⟩ lands)
    (lands : Lands instantiate segments root place) : motive segments root place lands := by
  induction lands with
  | field r name accepted writable =>
    exact here _ (.record r) _ _ (Value.slot?_record accepted) writable
  | item items position near => exact here _ (.list items) _ _ (Value.slot?_list near) rfl
  | underField r name next more place accepted creatable below ih =>
    exact under _ _ _ (.record r) _ _ _ (Value.slot?_record accepted) creatable below ih
  | underItem items position next more place near below ih =>
    exact under _ _ _ (.list items) _ _ _ (Value.slot?_list near) (fun _ => rfl) below ih

/-- Steps that lead to a place through a slot lead there from what is entered in it. -/
theorem Lands.below_slot (lands : Lands instantiate (s :: next :: more) root place)
    (found : root.slot? s = some slot) :
    ∃ store, Lands instantiate (next :: more)
      (entered instantiate slot.content next slot.declared) ⟨place.declared, store⟩ := by
  rcases Value.slot?_cases found with
    ⟨r, name, rfl, rfl, -, rfl⟩ | ⟨items, position, rfl, rfl, -, rfl⟩
  · cases lands with
    | underField _ _ _ _ inner _ _ below => exact ⟨inner.store, below⟩
  · cases lands with
    | underItem _ _ _ _ inner _ below => exact ⟨inner.store, below⟩

/-- Steps lead to a place of the same type in every value that has the slot of the first step. -/
theorem Lands.of_slot?_eq {other : Value} (lands : Lands instantiate (s :: more) root place)
    (same : other.slot? s = root.slot? s) :
    ∃ store, Lands instantiate (s :: more) other ⟨place.declared, store⟩ := by
  generalize steps : s :: more = segments at lands
  cases lands using Lands.induction_on_slots with
  | here t root slot _ found writable =>
    cases steps
    exact ⟨_, .at_slot instantiate (same.trans found) writable⟩
  | under t next rest root slot inner _ found creatable below _ =>
    cases steps
    exact ⟨_, below.under_slot (same.trans found) creatable⟩

/-- What a write leaves is a container. -/
theorem Lands.isNull_store (lands : Lands instantiate segments root place) (w : Value) :
    (place.store w).isNull = false := by
  cases lands with
  | field | item | underField | underItem => rfl

/-- Steps go on below what was stored in a slot. -/
theorem Lands.under_putSlot (below : Lands instantiate (next :: more) a place)
    (found : root.slot? s = some slot) (present : a.isNull = false) :
    Lands instantiate (s :: next :: more) (root.putSlot s a)
      ⟨place.declared, fun w => root.putSlot s (place.store w)⟩ := by
  have content : (slot.holding a).content.isNull = false := present
  have inside : Lands instantiate (next :: more)
      (entered instantiate (slot.holding a).content next (slot.holding a).declared) place := by
    rwa [entered_of_isNull_eq_false content]
  have lands := inside.under_slot (Value.slot?_putSlot_self found a)
    (by rw [content]; exact Bool.noConfusion)
  simpa only [Value.putSlot_putSlot] using lands

/-- Where a value was stored, the steps lead to the same place again. -/
theorem Lands.again (lands : Lands instantiate segments root place) (w : Value) :
    Lands instantiate segments (place.store w) place := by
  induction lands using Lands.induction_on_slots with
  | here s root slot _ found writable =>
    have same : (root.putSlot s w).putSlot s = root.putSlot s :=
      funext (root.putSlot_putSlot s w)
    have lands := Lands.at_slot instantiate (Value.slot?_putSlot_self found w) writable
    rwa [same] at lands
  | under s next more root slot place _ found _ below ih =>
    exact ih.under_putSlot found (below.isNull_store w)

end Path

end Remap
