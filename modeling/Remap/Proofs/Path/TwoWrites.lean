import Remap.Proofs.Model.Reordered
import Remap.Proofs.Path.Elsewhere
import Remap.Proofs.Path.Offer
import Remap.Proofs.Path.WellTyped

/-!
# One write after the other

The second of two writes finds what the first one has created on its way, where a direct write
creates it itself. At the same place this makes no difference: the walk of the first write is that
of the second. At places apart it makes none either, if the paths part with two properties or two
positions, since then both create the same on the way that they share.

Main statements: the last of two writes at a path wins, and writes at paths that part commute but
for the order of the fields that they add to a record.
-/

namespace Remap

variable {σ : Type}

namespace Path

/-! ## The same place -/

/-- A write that lands is a fitting, and the store of what comes of it. -/
theorem write_of_lands {m : Type → Type} [Monad m] [LawfulMonad m] {coercer : Coercer m}
    {path : Path} {root : Value} {place : Place}
    (lands : Lands coercer.instantiate path.segments root place) (v : Value) :
    path.write coercer root v = place.store <$> coercer.coerce v place.declared := by
  refine ExceptT.ext ?_
  rw [write, writeInto, assign_of_lands lands, storeFitted, ExceptT.run_mk, ExceptT.run_map,
    bind_assoc, ← bind_pure_comp]
  refine congrArg _ (funext fun fitted => ?_)
  cases fitted with
  | ok w => simp [Except.map]
  | error e => simp [Except.map]

/-- A write that gives a root has stored the fitted value at the place that the steps lead to. -/
theorem lands_of_write {path : Path} {coercer : Coercer (StateM σ)} {root v after : Value}
    {s s' : σ} (written : (path.write coercer root v).run.run s = (.ok after, s')) :
    ∃ place w, Lands coercer.instantiate path.segments root place ∧
      (coercer.coerce v place.declared).run.run s = (.ok w, s') ∧ after = place.store w := by
  rw [write, ExceptT.run_mk, StateT.run_bind] at written
  rcases run_writeInto_cases path coercer root v s with
    ⟨e, s'', failed⟩ | ⟨place, w, s'', lands, fitted, stored⟩
  · rw [failed] at written
    cases written
  · rw [stored] at written
    cases written
    exact ⟨place, w, lands, fitted, rfl⟩

/-- The last write at a path wins. Once a write has succeeded, a further one comes to the same as it
does on the root from before: in whatever state of the coercer it fails with the same error, or it
gives the same root, with the same fields in the same order and lists of the same lengths. Writing
the same value again with a strict coercer succeeds and changes nothing. -/
theorem write_after_write (path : Path) (coercer : Coercer (StateM σ)) (root v between : Value)
    (s s' : σ) (written : (path.write coercer root v).run.run s = (.ok between, s')) :
    (∀ w, path.write coercer between w = path.write coercer root w) ∧
      (coercer = .strict → ∀ t, (path.write coercer between v).run.run t = (.ok between, t)) := by
  obtain ⟨place, fitted, lands, fitting, rfl⟩ := lands_of_write written
  have again := lands.again fitted
  constructor
  · intro w
    rw [write_of_lands again, write_of_lands lands]
  · rintro rfl t
    obtain ⟨rfl, accepted⟩ := Coercer.eq_of_strict fitting
    have taken : (Coercer.strict : Coercer (StateM σ)).coerce fitted place.declared =
        pure fitted := if_pos accepted
    rw [write_of_lands again, taken]
    rfl

end Path

namespace Depot

/-- A second bolt goes into the row that was made for the first one, and the first one may be put
there again. -/
theorem bolt_is_replaced :
    (boltCell.write strict stocked (.string "bolt")).run.run () = (.ok bolted, ()) ∧
      (∀ w, boltCell.write strict bolted w = boltCell.write strict stocked w) ∧
      ∀ t, (boltCell.write strict bolted (.string "bolt")).run.run t = (.ok bolted, t) := by
  have written : (boltCell.write strict stocked (.string "bolt")).run.run () =
      (.ok bolted, ()) := rfl
  obtain ⟨last, again⟩ :=
    Path.write_after_write boltCell strict stocked (.string "bolt") bolted () () written
  exact ⟨written, last, again rfl⟩

end Depot

/-! ## Places apart -/

namespace Path

/-- Two lists of steps part, after steps that they share, with two properties or two positions. -/
inductive Fork : List Segment → List Segment → Prop
  | properties {name other : String} (different : name ≠ other) (p q : List Segment) :
      Fork (.property name :: p) (.property other :: q)
  | positions {position other : Nat} (different : position ≠ other) (p q : List Segment) :
      Fork (.index position :: p) (.index other :: q)
  | later (s : Segment) {p q : List Segment} (fork : Fork p q) : Fork (s :: p) (s :: q)

/-- Steps that part begin in such a way that the same is created for either of them. -/
theorem Fork.exists_cons {p q : List Segment} (fork : Fork p q) :
    ∃ s more t rest, p = s :: more ∧ q = t :: rest ∧
      ∀ instantiate declared,
        intermediate instantiate s declared = intermediate instantiate t declared := by
  cases fork with
  | properties _ p q => exact ⟨_, p, _, q, rfl, rfl, fun _ _ => rfl⟩
  | positions _ p q => exact ⟨_, p, _, q, rfl, rfl, fun _ _ => rfl⟩
  | @later s p q fork => exact ⟨s, p, s, q, rfl, rfl, fun _ _ => rfl⟩

end Path

namespace Value

variable {v a b : Value} {s t : Segment}

/-- A slot is filled with either of two contents. -/
theorem Reordered.putSlot (v : Value) (s : Segment) (same : Reordered a b) :
    Reordered (v.putSlot s a) (v.putSlot s b) := by
  cases v with
  | record r =>
    cases s with
    | index => exact .refl _
    | property name => exact .record r.shape (.put r.fields name same)
  | list items =>
    cases s with
    | property => exact .refl _
    | index position =>
      have each (items : List Value) : List.Forall₂ Reordered items items :=
        List.forall₂_same.mpr fun v _ => .refl v
      refine .list ?_
      unfold Path.setItem
      split
      · next inside =>
        rw [List.set_eq_take_append_cons_drop, List.set_eq_take_append_cons_drop, if_pos inside,
          if_pos inside]
        exact List.rel_append (each _) (.cons same (each _))
      · exact List.rel_append (each _) (.cons same .nil)
  | _ => exact .refl _

/-- Two slots are filled in either order. -/
theorem reordered_putSlot_putSlot {slot other : Slot} (found : v.slot? s = some slot)
    (foundOther : v.slot? t = some other) (different : s ≠ t) (a b : Value) :
    Reordered ((v.putSlot s a).putSlot t b) ((v.putSlot t b).putSlot s a) := by
  rcases slot?_cases found with ⟨r, name, rfl, rfl, -⟩ | ⟨items, position, rfl, rfl, -⟩
  · rcases slot?_cases foundOther with ⟨_, second, equal, rfl, -⟩ | ⟨_, _, equal, -⟩
    · have apart : name ≠ second := fun same => different (congrArg Segment.property same)
      exact .record r.shape (.put_comm r.fields apart a b)
    · cases equal
  · rcases slot?_cases foundOther with ⟨_, _, equal, -⟩ | ⟨_, second, equal, rfl, -⟩
    · cases equal
    · have apart : position ≠ second := fun same => different (congrArg Segment.index same)
      simp only [putSlot, Path.setItem_comm items apart]
      exact .refl _

end Value

namespace Offer

variable {instantiate : FieldType → Value} {f g : FieldType → Option Value} {v w : Value}
  {s next : Segment} {more p q : List Segment} {slot : Slot}

/-- An offer that is taken below a slot finds something there, or the slot may be filled. -/
theorem creatable_of_store? (found : v.slot? s = some slot)
    (stored : (Offer.mk (s :: next :: more) f).store? instantiate v = some w) :
    slot.content.isNull = true → slot.writable = true := by
  rw [store?_of_slot? found] at stored
  obtain ⟨x, filled, -⟩ := Option.map_eq_some_iff.mp stored
  intro null
  simp only [fill?, null] at filled
  cases writable : slot.writable with
  | true => rfl
  | false => simp [writable] at filled

/-- An offer goes on below a slot. -/
theorem store?_through (found : v.slot? s = some slot)
    (creatable : slot.content.isNull = true → slot.writable = true) :
    (Offer.mk (s :: next :: more) f).store? instantiate v =
      ((Offer.mk (next :: more) f).store? instantiate
        (Path.entered instantiate slot.content next slot.declared)).map (v.putSlot s) := by
  rw [store?_of_slot? found, fill?_of_next creatable]

/-- An offer goes on below what was stored in a slot. -/
theorem store?_putSlot (found : v.slot? s = some slot) (present : w.isNull = false) :
    (Offer.mk (s :: next :: more) f).store? instantiate (v.putSlot s w) =
      ((Offer.mk (next :: more) f).store? instantiate w).map (v.putSlot s) := by
  have content : (slot.holding w).content.isNull = false := present
  rw [store?_through (Value.slot?_putSlot_self found w) (by rw [content]; exact Bool.noConfusion),
    Path.entered_of_isNull_eq_false content]
  exact congrArg (Option.map · _) (funext fun x => Value.putSlot_putSlot v s w x)

/-- What a second offer comes to when a first one has left `a` of the value `v`. It is refused as it
is without the first, or it is taken as it is without, and then either order leaves the same but
for the order of fields. -/
inductive Unhindered (instantiate : FieldType → Value) (first second : Offer) (v a : Value) : Prop
  | refused (alone : second.store? instantiate v = none)
      (after : second.store? instantiate a = none)
  | taken {b c d : Value} (alone : second.store? instantiate v = some b)
      (after : second.store? instantiate a = some c)
      (swapped : first.store? instantiate b = some d) (same : c.Reordered d)

/-- Offers to different slots do not hinder each other. -/
theorem unhindered_of_ne {s t : Segment} {a : Value} (different : s ≠ t)
    (stored : (Offer.mk (s :: p) f).store? instantiate v = some a) :
    Unhindered instantiate ⟨s :: p, f⟩ ⟨t :: q, g⟩ v a := by
  rw [store?_cons, Option.bind_eq_some_iff] at stored
  obtain ⟨slot, found, filling⟩ := stored
  obtain ⟨x, filled, rfl⟩ := Option.map_eq_some_iff.mp filling
  have kept (u : Value) : (v.putSlot s u).slot? t = v.slot? t :=
    Value.slot?_putSlot_of_ne different.symm u
  cases other : v.slot? t with
  | none =>
    exact .refused (store?_of_slot?_eq_none other)
      (store?_of_slot?_eq_none ((kept x).trans other))
  | some there =>
    cases taken : (Offer.mk q g).fill? instantiate there with
    | none =>
      refine .refused ?_ ?_
      · rw [store?_of_slot? other, taken]
        rfl
      · rw [store?_of_slot? ((kept x).trans other), taken]
        rfl
    | some y =>
      refine .taken (b := v.putSlot t y) ?_ ?_ ?_
        (Value.reordered_putSlot_putSlot found other different x y)
      · rw [store?_of_slot? other, taken]
        rfl
      · rw [store?_of_slot? ((kept x).trans other), taken]
        rfl
      · rw [store?_of_slot? ((Value.slot?_putSlot_of_ne different y).trans found), filled]
        rfl

/-- Offers do not hinder each other if their steps part. -/
theorem unhindered_of_fork {first second : Offer} {a : Value}
    (fork : Path.Fork first.segments second.segments)
    (stored : first.store? instantiate v = some a) : Unhindered instantiate first second v a := by
  obtain ⟨p, f⟩ := first
  obtain ⟨q, g⟩ := second
  change Path.Fork p q at fork
  induction fork generalizing v a with
  | properties different p q =>
    exact unhindered_of_ne (fun same => different (Segment.property.inj same)) stored
  | positions different p q =>
    exact unhindered_of_ne (fun same => different (Segment.index.inj same)) stored
  | later s fork ih =>
    obtain ⟨next, more, other, rest, rfl, rfl, alike⟩ := fork.exists_cons
    cases found : v.slot? s with
    | none =>
      rw [store?_of_slot?_eq_none found] at stored
      cases stored
    | some slot =>
      have creatable := creatable_of_store? found stored
      -- Both offers go on in the same value, be it there or created.
      have shared : Path.entered instantiate slot.content other slot.declared =
          Path.entered instantiate slot.content next slot.declared := by
        simp only [Path.entered, alike]
      rw [store?_through found creatable] at stored
      obtain ⟨x, inside, rfl⟩ := Option.map_eq_some_iff.mp stored
      have present := isNull_of_store? inside
      cases ih inside with
      | refused alone after =>
        refine .refused ?_ ?_
        · rw [store?_through found creatable, shared, alone]
          rfl
        · rw [store?_putSlot found present, after]
          rfl
      | @taken b c d alone after swapped same =>
        refine .taken (b := v.putSlot s b) ?_ ?_ ?_ (same.putSlot v s)
        · rw [store?_through found creatable, shared, alone]
          rfl
        · rw [store?_putSlot found present, after]
          rfl
        · rw [store?_putSlot found (isNull_of_store? alone), swapped]
          rfl

end Offer

namespace Path

theorem Fork.symm {p q : List Segment} (fork : Fork p q) : Fork q p := by
  induction fork with
  | properties different p q => exact .properties different.symm q p
  | positions different p q => exact .positions different.symm q p
  | later s _ ih => exact .later s ih

/-- What a write comes to in a state of the coercer: its verdict, and the root as it leaves it. -/
def writeIn (path : Path) (coercer : Coercer (StateM σ)) (s : σ) (root v : Value) : Written :=
  ((path.writeInto coercer root v).run s).1

/-- What a write in a state of the coercer offers to the place that it leads to. -/
def offerIn (path : Path) (coercer : Coercer (StateM σ)) (s : σ) (v : Value) : Offer :=
  ⟨path.segments, fun t => ((coercer.coerce v t).run.run s).1.toOption⟩

/-- A write in a state of the coercer comes to what is offered: it succeeds if the offer is taken,
and leaves what the offer leaves. -/
theorem writeIn_cases (path : Path) (coercer : Coercer (StateM σ)) (s : σ) (root v : Value) :
    (∃ after, (path.offerIn coercer s v).store? coercer.instantiate root = some after ∧
        path.writeIn coercer s root v = (.ok (), after)) ∨
      (path.offerIn coercer s v).store? coercer.instantiate root = none ∧
        ∃ e, path.writeIn coercer s root v = (.error e, root) := by
  rcases Offer.cases_of_writeInto path coercer root v with
    ⟨e, failed, refused⟩ | ⟨place, landed, stored⟩
  · refine .inr ⟨refused _, e, ?_⟩
    rw [writeIn, failed]
    rfl
  · rw [offerIn, stored, writeIn, landed, run_storeFitted]
    cases (coercer.coerce v place.declared).run.run s with
    | mk result s' =>
      cases result with
      | ok w => exact .inl ⟨place.store w, rfl, rfl⟩
      | error e => exact .inr ⟨rfl, e, rfl⟩

theorem isOk_writeIn (path : Path) (coercer : Coercer (StateM σ)) (s : σ) (root v : Value) :
    (path.writeIn coercer s root v).1.isOk =
      ((path.offerIn coercer s v).store? coercer.instantiate root).isSome := by
  rcases writeIn_cases path coercer s root v with ⟨after, stored, written⟩ | ⟨refused, e, failed⟩
  · rw [stored, written]
    rfl
  · rw [refused, failed]
    rfl

theorem root_writeIn (path : Path) (coercer : Coercer (StateM σ)) (s : σ) (root v : Value) :
    (path.writeIn coercer s root v).2 =
      ((path.offerIn coercer s v).store? coercer.instantiate root).getD root := by
  rcases writeIn_cases path coercer s root v with ⟨after, stored, written⟩ | ⟨refused, e, failed⟩
  · rw [stored, written]
    rfl
  · rw [refused, failed]
    rfl

/-- Writes at two paths that part commute. Each of them succeeds or fails in either order alike,
and the roots in the end are equal but for the order of fields. The coercer may keep a state of its
own; each write is made in the same state whether it comes first or second. -/
theorem writeIn_comm (p q : Path) (fork : Fork p.segments q.segments)
    (coercer : Coercer (StateM σ)) (root v w : Value) (s t : σ) :
    let second := q.writeIn coercer t (p.writeIn coercer s root v).2 w
    let swapped := p.writeIn coercer s (q.writeIn coercer t root w).2 v
    (p.writeIn coercer s root v).1.isOk = swapped.1.isOk ∧
      second.1.isOk = (q.writeIn coercer t root w).1.isOk ∧
      second.2.Reordered swapped.2 := by
  simp only [isOk_writeIn, root_writeIn]
  cases first : (p.offerIn coercer s v).store? coercer.instantiate root with
  | some a =>
    have unhindered : Offer.Unhindered coercer.instantiate (p.offerIn coercer s v)
        (q.offerIn coercer t w) root a := Offer.unhindered_of_fork fork first
    cases unhindered with
    | refused alone after => simp [alone, after, first, Value.Reordered.refl]
    | taken alone after swapped same => simp [alone, after, swapped, same]
  | none =>
    cases other : (q.offerIn coercer t w).store? coercer.instantiate root with
    | none => simp [first, other, Value.Reordered.refl]
    | some b =>
      have unhindered : Offer.Unhindered coercer.instantiate (q.offerIn coercer t w)
          (p.offerIn coercer s v) root b := Offer.unhindered_of_fork fork.symm other
      cases unhindered with
      | refused alone after => simp [other, after, Value.Reordered.refl]
      | taken alone => cases first.symm.trans alone

end Path

namespace Depot

/-- The shelf with a label and then a bolt. -/
def labelledThenBolted : Value :=
  .record ⟨.typed shelfType,
    [("box", .record ⟨.typed boxType, [("label", .string "yes")]⟩),
      ("rows", .list [.null, .null, boltRow])]⟩

/-- The shelf with a bolt and then a label. -/
def boltedThenLabelled : Value :=
  .record ⟨.typed shelfType,
    [("rows", .list [.null, .null, boltRow]),
      ("box", .record ⟨.typed boxType, [("label", .string "yes")]⟩)]⟩

/-- The box and the rows of an empty shelf are made in either order. -/
theorem label_and_bolt_commute :
    Path.Fork boxLabel.segments boltCell.segments ∧
      boltCell.writeIn labeller 1 (boxLabel.writeIn labeller 0 shelf (.boolean true)).2
        (.string "bolt") = (.ok (), labelledThenBolted) ∧
      boxLabel.writeIn labeller 0 (boltCell.writeIn labeller 1 shelf (.string "bolt")).2
        (.boolean true) = (.ok (), boltedThenLabelled) ∧
      labelledThenBolted.Reordered boltedThenLabelled := by
  have fork : Path.Fork boxLabel.segments boltCell.segments := .properties (by decide) _ _
  obtain ⟨-, -, same⟩ := Path.writeIn_comm boxLabel boltCell fork labeller shelf (.boolean true)
    (.string "bolt") 0 1
  exact ⟨fork, rfl, rfl, same⟩

end Depot

end Remap
