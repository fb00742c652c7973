import Remap.Path.Write

/-!
# Where a write lands

A write walks down from the root, creating what is missing, and ends at one place: a field or an
item with its declared type. `Lands` describes the walks that end well. A write that lands is one
fitting and one store, and every other write leaves the root as it was.

Main statement: the decision taken beforehand and the write itself agree, in their errors too.
-/

namespace Remap

/-- The errors by which a place refuses to be written: it is undeclared, read-only or out of
reach. -/
def EvalError.isRefusal : EvalError → Bool
  | .propertyNotFound .. => true
  | .notWritable .. => true
  | .indexOutOfBounds .. => true
  | _ => false

namespace Path

/-- A place below a value: its declared type, and the value with another one stored there. -/
structure Place where
  declared : FieldType
  store : Value → Value

/-- The steps from a value lead to a place that takes values. Missing values on the way count as
what a write would create for them. -/
inductive Lands (instantiate : FieldType → Value) : List Segment → Value → Place → Prop
  | field (r : Record) (name : String) (accepted : r.accepts name = true)
      (writable : r.isWritable name = true) :
      Lands instantiate [.property name] (.record r)
        ⟨r.declaredType name, fun w => .record (r.put name w)⟩
  | item (items : List Value) (position : Nat) (near : position < growthLimit) :
      Lands instantiate [.index position] (.list items)
        ⟨.any, fun w => .list (setItem items position w)⟩
  | underField (r : Record) (name : String) (next : Segment) (more : List Segment) (place : Place)
      (accepted : r.accepts name = true)
      (creatable : (fieldContent r name).isNull = true → r.isWritable name = true)
      (below : Lands instantiate (next :: more)
        (entered instantiate (fieldContent r name) next (r.declaredType name)) place) :
      Lands instantiate (.property name :: next :: more) (.record r)
        ⟨place.declared, fun w => .record (r.put name (place.store w))⟩
  | underItem (items : List Value) (position : Nat) (next : Segment) (more : List Segment)
      (place : Place) (near : position < growthLimit)
      (below : Lands instantiate (next :: more)
        (entered instantiate (itemContent items position) next .any) place) :
      Lands instantiate (.index position :: next :: more) (.list items)
        ⟨place.declared, fun w => .list (setItem items position (place.store w))⟩

/-- Steps that a write would be taken at lead to a place. -/
theorem lands_of_writable {instantiate : FieldType → Value} {segments : List Segment}
    {root : Value} (taken : writable instantiate segments root = .ok true) :
    ∃ place, Lands instantiate segments root place := by
  fun_induction writable instantiate segments root with
  | case3 name r accepted =>
    simp only [Bool.not_eq_true', Bool.not_eq_false] at accepted
    exact ⟨_, .field r name accepted (by simpa using taken)⟩
  | case5 name r accepted next more content creating ih =>
    obtain ⟨place, below⟩ := ih taken
    simp only [Bool.not_eq_true', Bool.not_eq_false] at accepted
    refine ⟨_, .underField r name next more place accepted ?_ below⟩
    intro null
    simpa [content, null] using creating
  | case9 position items near => exact ⟨_, .item items position (Nat.not_le.mp near)⟩
  | case10 position items near next more ih =>
    obtain ⟨place, below⟩ := ih taken
    exact ⟨_, .underItem items position next more place (Nat.not_le.mp near) below⟩
  | _ => cases taken

/-! ## What a write leaves behind -/

theorem entered_of_isNull {instantiate : FieldType → Value} {content : Value} {next : Segment}
    {declared : FieldType} (null : content.isNull = true) :
    entered instantiate content next declared = intermediate instantiate next declared :=
  if_pos null

theorem entered_of_isNull_eq_false {instantiate : FieldType → Value} {content : Value}
    {next : Segment} {declared : FieldType} (present : content.isNull = false) :
    entered instantiate content next declared = content := by
  simp [entered, present]

/-- A content that is not null is what the field holds, so storing it again changes nothing. -/
theorem put_entered {instantiate : FieldType → Value} {r : Record} {name : String}
    {next : Segment} {declared : FieldType} (present : (fieldContent r name).isNull = false) :
    r.put name (entered instantiate (fieldContent r name) next declared) = r := by
  rw [entered_of_isNull_eq_false present]
  unfold fieldContent at *
  cases found : r.get? name with
  | none => simp [found, Value.isNull] at present
  | some content => exact RecordOf.put_of_get?_eq_some found

/-- A content that is not null is what the position holds, so storing it again changes
nothing. -/
theorem setItem_entered {instantiate : FieldType → Value} {items : List Value} {position : Nat}
    {next : Segment} {declared : FieldType}
    (present : (itemContent items position).isNull = false) :
    setItem items position (entered instantiate (itemContent items position) next declared) =
      items := by
  rw [entered_of_isNull_eq_false present]
  unfold itemContent at *
  cases found : items[position]? with
  | none => simp [found, Value.isNull] at present
  | some content => exact setItem_of_getElem?_eq_some found

/-- A failure below a place leaves the value around it, if a content that was there comes back
unchanged. -/
theorem attach_error {content inner current : Value} {store : Value → Value} (e : EvalError)
    (back : content.isNull = false → store inner = current) :
    attach content current store (.error e, inner) = (.error e, current) := by
  cases null : content.isNull with
  | true => simp [attach, null]
  | false => simp [attach, null, back null]

variable {m : Type → Type} [Monad m] [LawfulMonad m] {coercer : Coercer m}

/-- A fitting below a place is a fitting at the place. -/
theorem map_attach_storeFitted {declared : FieldType} {content inner current v : Value}
    {inside store : Value → Value} (back : content.isNull = false → store inner = current) :
    attach content current store <$> storeFitted coercer declared inside inner v =
      storeFitted coercer declared (fun w => store (inside w)) current v := by
  simp only [storeFitted, map_bind]
  refine congrArg _ (funext fun fitted => ?_)
  cases fitted with
  | ok w => simp [attach]
  | error e => simp [attach_error e back]

theorem assign_underField {r : Record} {name : String} {next : Segment} {more : List Segment}
    (accepted : r.accepts name = true)
    (creating : ((fieldContent r name).isNull && !r.isWritable name) = false) (path : String)
    (v : Value) :
    assign coercer path (.property name :: next :: more) (.record r) v =
      attach (fieldContent r name) (.record r) (fun w => .record (r.put name w)) <$>
        assign coercer path (next :: more)
          (entered coercer.instantiate (fieldContent r name) next (r.declaredType name)) v := by
  simp [assign, accepted, creating]

theorem assign_underItem {items : List Value} {position : Nat} {next : Segment}
    {more : List Segment} (near : position < growthLimit) (path : String) (v : Value) :
    assign coercer path (.index position :: next :: more) (.list items) v =
      attach (itemContent items position) (.list items)
          (fun w => .list (setItem items position w)) <$>
        assign coercer path (next :: more)
          (entered coercer.instantiate (itemContent items position) next .any) v := by
  simp [assign, Nat.not_le.mpr near]

/-- A write that lands fits the value to the declared type of the place and stores it there. -/
theorem assign_of_lands {segments : List Segment} {root : Value} {place : Place}
    (lands : Lands coercer.instantiate segments root place) (path : String) (v : Value) :
    assign coercer path segments root v =
      storeFitted coercer place.declared place.store root v := by
  induction lands with
  | field r name accepted writable => simp [assign, accepted, writable]
  | item items position near => simp [assign, Nat.not_le.mpr near]
  | underField r name next more place accepted creatable below ih =>
    have creating : ((fieldContent r name).isNull && !r.isWritable name) = false := by
      cases null : (fieldContent r name).isNull with
      | true => simp [creatable null]
      | false => rfl
    rw [assign_underField accepted creating, ih]
    exact map_attach_storeFitted fun present => by rw [put_entered present]
  | underItem items position next more place near below ih =>
    rw [assign_underItem near, ih]
    exact map_attach_storeFitted fun present => by rw [setItem_entered present]

/-- Steps that lead nowhere: the write fails with the error of the decision. -/
theorem assign_of_writable_error {segments : List Segment} {root : Value} {e : EvalError}
    (lost : writable coercer.instantiate segments root = .error e) (path : String) (v : Value) :
    assign coercer path segments root v = pure (.error e, root) := by
  fun_induction writable coercer.instantiate segments root with
  | case5 name r accepted next more content creating ih =>
    simp only [Bool.not_eq_true', Bool.not_eq_false, Bool.not_eq_true] at accepted creating
    rw [assign_underField accepted creating, ih lost, map_pure]
    rw [attach_error e fun present => by rw [put_entered present]]
  | case10 position items near next more ih =>
    rw [assign_underItem (Nat.not_le.mp near), ih lost, map_pure]
    rw [attach_error e fun present => by rw [setItem_entered present]]
  | case6 | case11 =>
    cases lost
    simp [assign]
  | case7 name rest other noRecord noNull =>
    cases lost
    cases other <;> simp_all [assign]
  | case12 position rest other noList noNull =>
    cases lost
    cases other <;> simp_all [assign]
  | _ => cases lost

/-- A place that is undeclared, read-only or out of reach: the write is refused. -/
theorem assign_of_writable_false {segments : List Segment} {root : Value}
    (closed : writable coercer.instantiate segments root = .ok false) (path : String) :
    ∃ e : EvalError, e.isRefusal = true ∧
      ∀ v, assign coercer path segments root v = pure (.error e, root) := by
  fun_induction writable coercer.instantiate segments root with
  | case5 name r accepted next more content creating ih =>
    obtain ⟨e, refusal, refused⟩ := ih closed
    simp only [Bool.not_eq_true', Bool.not_eq_false, Bool.not_eq_true] at accepted creating
    refine ⟨e, refusal, fun v => ?_⟩
    rw [assign_underField accepted creating, refused v, map_pure]
    rw [attach_error e fun present => by rw [put_entered present]]
  | case10 position items near next more ih =>
    obtain ⟨e, refusal, refused⟩ := ih closed
    refine ⟨e, refusal, fun v => ?_⟩
    rw [assign_underItem (Nat.not_le.mp near), refused v, map_pure]
    rw [attach_error e fun present => by rw [setItem_entered present]]
  | case1 => exact ⟨.notWritable path "empty path", rfl, fun v => rfl⟩
  | case2 name rest r undeclared =>
    exact ⟨.propertyNotFound name (r.typeName?.getD "record"), rfl,
      fun v => by cases rest <;> simp [assign, undeclared]⟩
  | case3 name r accepted =>
    simp only [Bool.not_eq_true', Bool.not_eq_false] at accepted
    have readOnly : r.isWritable name = false := by simpa using closed
    exact ⟨.notWritable path ("'" ++ name ++ "' is read-only"), rfl,
      fun v => by simp [assign, accepted, readOnly]⟩
  | case4 name r accepted next more content creating =>
    simp only [Bool.not_eq_true', Bool.not_eq_false] at accepted
    exact ⟨.notWritable path ("cannot create read-only '" ++ name ++ "'"), rfl,
      fun v => by simp [assign, accepted, content, creating]⟩
  | case8 position rest items far =>
    exact ⟨.indexOutOfBounds position items.length, rfl,
      fun v => by cases rest <;> simp [assign, far]⟩
  | _ => cases closed

/-- A write fails and leaves the root as it was, or it lands. -/
theorem writeInto_cases (path : Path) (coercer : Coercer m) (root v : Value) :
    (∃ e, path.writeInto coercer root v = pure (.error e, root)) ∨
      ∃ place, Lands coercer.instantiate path.segments root place ∧
        path.writeInto coercer root v =
          storeFitted coercer place.declared place.store root v := by
  unfold writeInto
  cases decision : writable coercer.instantiate path.segments root with
  | error e => exact .inl ⟨e, assign_of_writable_error decision path.text v⟩
  | ok taken =>
    cases taken with
    | false =>
      obtain ⟨e, -, refused⟩ := assign_of_writable_false decision path.text
      exact .inl ⟨e, refused v⟩
    | true =>
      obtain ⟨place, lands⟩ := lands_of_writable decision
      exact .inr ⟨place, lands, assign_of_lands lands path.text v⟩

/-- Deciding and writing agree. Where the decision is an error the write fails with it; where the
place is refused the write is refused; and where it is open the write stores the value as fitted to
the declared type of the place, or fails with the error of that fitting alone. A write that fails
leaves the root as it was. -/
theorem writeInto_agrees_isWritable (path : Path) (coercer : Coercer Id) (root v : Value) :
    match path.isWritable coercer.instantiate root with
    | .error e => Id.run (path.writeInto coercer root v) = (.error e, root)
    | .ok false =>
      ∃ e : EvalError, e.isRefusal = true ∧
        Id.run (path.writeInto coercer root v) = (.error e, root)
    | .ok true =>
      ∃ place, Lands coercer.instantiate path.segments root place ∧
        match Id.run (coercer.coerce v place.declared).run with
        | .ok w => Id.run (path.writeInto coercer root v) = (.ok (), place.store w)
        | .error e => Id.run (path.writeInto coercer root v) = (.error e, root) := by
  unfold isWritable writeInto
  split
  · next e lost => rw [assign_of_writable_error lost, Id.run_pure]
  · next closed =>
    obtain ⟨e, refusal, refused⟩ := assign_of_writable_false closed path.text
    exact ⟨e, refusal, by rw [refused v, Id.run_pure]⟩
  · next taken =>
    obtain ⟨place, lands⟩ := lands_of_writable taken
    refine ⟨place, lands, ?_⟩
    rw [assign_of_lands lands]
    unfold storeFitted
    split
    · next w fitted => simp [fitted]
    · next e misfit => simp [misfit]

end Path

end Remap
