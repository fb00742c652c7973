import Remap.Proofs.Convert.Everywhere
import Remap.Proofs.Mapping.Turns
import Remap.Regex.Reader

/-!
# Passes inside passes

A pass is opened on top of the passes that are open and is closed when it is done. A computation is
balanced if it leaves the open passes as it found them. In a tree of mappers, reached through
entries that hand the target over and through converters, every run is balanced as soon as the
mappers at its leaves are.

`Opened` follows a run down to a pass: an outermost pass, and inside each pass one that an entry of
it calls.

Main statement: every run of a tree is balanced, and an entry of a pass runs on top of one label for
each pass around it and on top of the label of its own.
-/

namespace Remap

/-! ## Balanced computations -/

/-- The computation leaves the open passes as it found them. -/
def Scoped.Balanced {α : Type} (body : Scoped α) : Prop := ∀ scope, (body.run scope).2 = scope

/-- Before something balanced the passes are open that are open in the end. -/
theorem Scoped.scope_bind {α β : Type} {body : Scoped α} {next : α → Scoped β}
    (balanced : ∀ a, (next a).Balanced) (scope : Scope) :
    ((body >>= next).run scope).2 = (body.run scope).2 := by
  rw [Scoped.run_bind, balanced]

namespace Scoped.Balanced

variable {α β : Type} {body : Scoped α}

theorem pure (a : α) : (Pure.pure a : Scoped α).Balanced := fun _ => rfl

theorem bind {next : α → Scoped β} (first : body.Balanced) (second : ∀ a, (next a).Balanced) :
    (body >>= next).Balanced := by
  intro scope
  rw [Scoped.scope_bind second, first]

theorem map (f : α → β) (balanced : body.Balanced) : (f <$> body).Balanced := balanced

/-- One more pass is closed when a balanced body is done. -/
theorem within (label : String) (balanced : body.Balanced) :
    (Scoped.within label body).Balanced := by
  intro scope
  rw [Scoped.run_within, balanced, Scope.leave_enter]

end Scoped.Balanced

/-- Every run is balanced. -/
def NestedMapper.Balanced (mapper : NestedMapper) : Prop :=
  ∀ source target, (mapper.run source target).Balanced

/-- Every conversion is balanced. -/
def TypedConverter.Balanced (converter : TypedConverter Scoped) : Prop :=
  ∀ v t, (converter v t).run.Balanced

/-- Every converter that is found for some pair of keys is balanced. -/
def ConversionRegistry.Balanced (r : ConversionRegistry Scoped) : Prop :=
  ∀ source target converter, (r.find source target).1 = some converter →
    TypedConverter.Balanced converter

/-! ## One entry after the other -/

theorem NestedMapper.Balanced.toConverter {mapper : NestedMapper} (balanced : mapper.Balanced)
    (targetFor : Value → FieldType → Value) :
    TypedConverter.Balanced (mapper.toConverter targetFor) := by
  intro v t scope
  cases null : v.isNull with
  | true =>
    rw [NestedMapper.toConverter, if_pos null]
    rfl
  | false =>
    rw [run_toConverter mapper targetFor null]
    exact balanced v (targetFor v t) scope

/-- Fitting a value by a balanced registry is balanced. -/
theorem balanced_coerceWith {conversions : ConversionRegistry Scoped}
    (balanced : conversions.Balanced) (types : TypeRegistry) (v : Value) (t : FieldType) :
    (coerceWith conversions types v t).run.Balanced := by
  rcases coerceWith_cases conversions types v t with ⟨result, run⟩ | ⟨converter, found, run⟩
  · rw [run]
    exact .pure result
  · rw [run]
    exact (balanced _ _ converter found v t).map _

namespace Pass

variable {pass : Pass} {auto : Bool} {e : Entry} {target : Value}

theorem scope_storeFitted (coercer : Coercer Scoped) (declared : FieldType) (store : Value → Value)
    (current v : Value) (scope : Scope) :
    ((Path.storeFitted coercer declared store current v).run scope).2 =
      ((coercer.coerce v declared).run.run scope).2 := by
  refine Scoped.scope_bind (fun fitted => ?_) scope
  cases fitted with
  | ok w => exact .pure _
  | error error => exact .pure _

theorem scope_write (path : Path) (v target : Value) (scope : Scope) :
    ((pass.write path v target).run scope).2 =
      ((path.writeInto pass.coercer target v).run scope).2 := by
  refine Scoped.scope_bind (fun written => ?_) scope
  obtain ⟨verdict, after⟩ := written
  cases verdict with
  | ok _ => exact .pure _
  | error error => exact .pure _

theorem scope_runNested (mapper : NestedMapper) (source v target : Value) (scope : Scope) :
    ((runNested mapper source v target).run scope).2 =
      ((mapper.run source target).run scope).2 := by
  refine Scoped.scope_bind (fun ran => ?_) scope
  obtain ⟨verdict, after⟩ := ran
  cases verdict with
  | ok _ => exact .pure _
  | error error => exact .pure _

/-- A write is balanced if fitting values is. -/
theorem balanced_write (fits : ∀ v t, (pass.coercer.coerce v t).run.Balanced) (path : Path)
    (v target : Value) : (pass.write path v target).Balanced := by
  intro scope
  rw [scope_write]
  rcases Path.writeInto_cases path pass.coercer target v with
    ⟨error, refused⟩ | ⟨place, -, landed⟩
  · rw [refused]
    rfl
  · rw [landed, scope_storeFitted]
    exact fits v place.declared scope

/-- A value that goes to a place of another type leaves the open passes as the nested mapper leaves
them that it is converted by. -/
theorem scope_write_of_find {m : FieldMapper} {source target v : Value} {path : Path}
    {place : Path.Place} {mapper : NestedMapper} {targetFor : Value → FieldType → Value}
    (lands : Path.Lands m.coercer.instantiate path.segments target place)
    (refused : place.declared.accepts v = false)
    (found : (m.conversions.find v.key place.declared.key).1 = some (mapper.toConverter targetFor))
    (scope : Scope) :
    (((m.passOver source).write path v target).run scope).2 =
      ((mapper.run v (targetFor v place.declared)).run scope).2 := by
  have present : v.isNull = false := by
    cases v with
    | null => cases refused
    | _ => rfl
  have landed : path.writeInto m.coercer target v =
      Path.storeFitted m.coercer place.declared place.store target v :=
    Path.assign_of_lands lands path.text v
  rw [scope_write]
  change ((path.writeInto m.coercer target v).run scope).2 = _
  rw [landed, scope_storeFitted]
  change ((coerceWith m.conversions m.types v place.declared).run.run scope).2 = _
  rw [coerceWith_of_find m.types refused found]
  change ((mapper.toConverter targetFor v place.declared).run.run scope).2 = _
  rw [NestedMapper.run_toConverter mapper targetFor present]

variable [Regex.Engine]

/-- An entry is balanced if fitting values is, and the nested mapper that it may run. -/
theorem balanced_runEntry (fits : ∀ v t, (pass.coercer.coerce v t).run.Balanced)
    (nested : ∀ mapper, e.action.mapper? = some mapper → mapper.Balanced) (auto : Bool)
    (target : Value) : (pass.runEntry auto e target).Balanced := by
  have turn := pass.turn auto e target
  generalize pass.runEntry auto e target = ran at turn ⊢
  cases turn with
  | rests => exact .pure _
  | offers path v => exact (balanced_write fits path v target).map _
  | hands mapper source v handed =>
    intro scope
    exact (scope_runNested mapper source v target scope).trans
      (nested mapper (mapper?_of_handed? handed) source target scope)

/-- Entries that are balanced one by one are balanced in a row. -/
theorem balanced_runEntries {entries : List Entry}
    (each : ∀ e ∈ entries, ∀ target, (pass.runEntry auto e target).Balanced) (target : Value) :
    (pass.runEntries auto entries target).Balanced := by
  induction entries generalizing target with
  | nil => exact .pure _
  | cons e rest ih =>
    refine .bind (each e List.mem_cons_self target) fun ran => ?_
    exact .bind (ih (fun other member => each other (List.mem_cons_of_mem e member)) ran.2)
      fun _ => .pure _

/-- Balanced entries are all run with the same passes open. -/
theorem scope_of_mem_steps {entries : List Entry}
    (each : ∀ e ∈ entries, ∀ target, (pass.runEntry auto e target).Balanced) {target : Value}
    {scope : Scope} {step : Step} (member : step ∈ pass.steps auto entries target scope) :
    step.scope = scope := by
  induction entries generalizing target scope with
  | nil => cases member
  | cons e rest ih =>
    rcases List.mem_cons.mp member with rfl | later
    · rfl
    · have behind := ih (fun other among => each other (List.mem_cons_of_mem e among)) later
      rw [behind, each e List.mem_cons_self]

end Pass

/-! ## One pass -/

/-- What a mapper hands the target to, or converts by, is balanced. -/
structure FieldMapper.Steady (m : FieldMapper) : Prop where
  nested : ∀ e ∈ m.entries, ∀ mapper, e.action.mapper? = some mapper → mapper.Balanced
  converters : m.conversions.Balanced

namespace FieldMapper.Steady

variable {m : FieldMapper}

variable [Regex.Engine]

/-- The entries of a mapper are balanced, and so are those that copy by name. -/
theorem balanced_runEntry (steady : m.Steady) (source : Value) (auto : Bool) {e : Entry}
    (entry : e ∈ m.entries ∨ ∃ name, e = Entry.copy name) (target : Value) :
    ((m.passOver source).runEntry auto e target).Balanced := by
  refine Pass.balanced_runEntry (balanced_coerceWith steady.converters m.types) ?_ auto target
  intro mapper hands
  rcases entry with declared | ⟨name, rfl⟩
  · exact steady.nested e declared mapper hands
  · cases hands

theorem balanced_run (steady : m.Steady) (source target : Value) :
    (m.run source target).Balanced := by
  refine .within _ (.bind (Pass.balanced_runEntries ?_ target) fun declared =>
    .bind (Pass.balanced_runEntries ?_ declared.2) fun _ => .pure _)
  · exact fun e member => steady.balanced_runEntry source false (.inl member)
  · exact fun e member =>
      steady.balanced_runEntry source true (.inr (exists_copy_of_mem_copies member))

theorem balanced_mapWithResults (steady : m.Steady) (source target : Value) :
    (m.mapWithResults source target).Balanced := by
  unfold mapWithResults
  cases missing? source target with
  | some role => exact .pure _
  | none => exact .bind (steady.balanced_run source target) fun _ => .pure _

theorem balanced_mapInto (steady : m.Steady) (source target : Value) :
    (m.mapInto source target).Balanced := by
  unfold mapInto
  cases missing? source target with
  | some role => exact .pure _
  | none => exact .bind (steady.balanced_run source target) fun _ => .pure _

theorem balanced_map (steady : m.Steady) (source target : Value) :
    (m.map source target).Balanced :=
  .bind (steady.balanced_mapInto source target) fun _ => .pure _

/-- All entries of a pass are run on top of the label of the pass. -/
theorem scope_of_mem_steps (steady : m.Steady) {source target : Value} {scope : Scope} {step : Step}
    (member : step ∈ m.steps source target scope) :
    step.scope = scope.enter source.key.text := by
  rcases List.mem_append.mp member with declared | copied
  · refine Pass.scope_of_mem_steps (fun e among => ?_) declared
    exact steady.balanced_runEntry source false (.inl among)
  · have behind : step.scope = (m.runDeclared source target scope).2 := by
      refine Pass.scope_of_mem_steps (fun e among => ?_) copied
      exact steady.balanced_runEntry source true (.inr (exists_copy_of_mem_copies among))
    rw [behind]
    refine Pass.balanced_runEntries (fun e among => ?_) target _
    exact steady.balanced_runEntry source false (.inl among)

end FieldMapper.Steady

/-! ## Trees of mappers -/

mutual

/-- A nested mapper at a leaf, which leaves the open passes as it found them, or a mapper with
entries of its own. -/
inductive NestedMapper.Tree [Regex.Engine] : NestedMapper → Prop
  | leaf (mapper : NestedMapper) (balanced : mapper.Balanced) : NestedMapper.Tree mapper
  | branch (inner : FieldMapper) (tag : Nat) (tree : FieldMapper.Tree inner) :
      NestedMapper.Tree (inner.nested tag)

/-- A converter at a leaf, which leaves the open passes as it found them, or a nested mapper as a
converter. -/
inductive TypedConverter.Tree [Regex.Engine] : TypedConverter Scoped → Prop
  | leaf (converter : TypedConverter Scoped) (balanced : TypedConverter.Balanced converter) :
      TypedConverter.Tree converter
  | branch (mapper : NestedMapper) (targetFor : Value → FieldType → Value)
      (tree : NestedMapper.Tree mapper) : TypedConverter.Tree (mapper.toConverter targetFor)

/-- A mapper with everything that it can reach through its entries and its converters. -/
inductive FieldMapper.Tree [Regex.Engine] : FieldMapper → Prop
  | intro (m : FieldMapper)
      (entries : ∀ e ∈ m.entries, ∀ mapper, e.action.mapper? = some mapper →
        NestedMapper.Tree mapper)
      (converters : ∀ source target converter,
        (m.conversions.find source target).1 = some converter → TypedConverter.Tree converter) :
      FieldMapper.Tree m

end

mutual

/-- A nested mapper of a tree is balanced. -/
theorem NestedMapper.Tree.balanced [Regex.Engine] :
    ∀ {mapper : NestedMapper}, mapper.Tree → mapper.Balanced
  | _, .leaf _ balanced => balanced
  | _, .branch _ _ tree => tree.steady.balanced_mapInto

/-- A converter of a tree is balanced. -/
theorem TypedConverter.Tree.balanced [Regex.Engine] :
    ∀ {converter : TypedConverter Scoped}, TypedConverter.Tree converter →
      TypedConverter.Balanced converter
  | _, .leaf _ balanced => balanced
  | _, .branch _ targetFor tree => tree.balanced.toConverter targetFor

/-- What a mapper of a tree reaches is balanced. -/
theorem FieldMapper.Tree.steady [Regex.Engine] : ∀ {m : FieldMapper}, m.Tree → m.Steady
  | _, .intro _ entries converters =>
    ⟨fun e member mapper hands => (entries e member mapper hands).balanced,
      fun source target converter found => (converters source target converter found).balanced⟩

end

/-! ## Open passes -/

/-- A pass that is opened: a mapper with its source and its target, and the passes around it. -/
structure Opening where
  mapper : FieldMapper
  source : Value
  target : Value
  around : Scope

namespace Opening

/-- What the pass is labelled with. -/
def label (o : Opening) : String := o.source.key.text

/-- The surroundings of the entries of the pass. -/
def pass (o : Opening) : Pass := o.mapper.passOver o.source

variable [Regex.Engine]

/-- The entries of the pass as they are run. -/
def steps (o : Opening) : List Step := o.mapper.steps o.source o.target o.around

/-- The pass comes to a step, with the target as the steps before it left it. -/
def Comes (o : Opening) (step : Step) (before : Value) : Prop :=
  ∃ earlier later, o.steps = earlier ++ step :: later ∧
    o.pass.Leads o.target (o.around.enter o.label) earlier before step.scope

/-- An entry of the pass runs a nested mapper on a source and a target, with some passes open. -/
inductive Calls (o : Opening) : NestedMapper → (source target : Value) → Scope → Prop
  /-- The entry hands its target over. -/
  | hands (step : Step) (before : Value) (mapper : NestedMapper) (source : Value)
      (comes : o.Comes step before)
      (handed : o.pass.handed? before step.entry = some (mapper, source)) :
      Calls o mapper source before step.scope
  /-- The entry offers a value to a place of another type, and the mapper is the converter. -/
  | converts (step : Step) (before : Value) (path : Path) (v : Value) (place : Path.Place)
      (mapper : NestedMapper) (targetFor : Value → FieldType → Value) (comes : o.Comes step before)
      (offered : o.pass.offered? before step.entry = some (path, v))
      (lands : Path.Lands o.mapper.coercer.instantiate path.segments before place)
      (refused : place.declared.accepts v = false)
      (found : (o.mapper.conversions.find v.key place.declared.key).1 =
        some (mapper.toConverter targetFor)) :
      Calls o mapper v (targetFor v place.declared) step.scope

theorem Comes.mem {o : Opening} {step : Step} {before : Value} (comes : o.Comes step before) :
    step ∈ o.steps := by
  obtain ⟨earlier, later, split, -⟩ := comes
  rw [split]
  exact List.mem_append_right _ List.mem_cons_self

/-- The passes that are open at some time in an outermost one, the innermost first. -/
inductive Opened (outermost : Opening) : List Opening → Prop
  | alone (present : FieldMapper.missing? outermost.source outermost.target = none) :
      Opened outermost [outermost]
  /-- An entry of the innermost pass runs a mapper of the tree. -/
  | inside (middle : Opening) (more : List Opening) (inner : FieldMapper) (tag : Nat)
      (source target : Value) (scope : Scope) (opened : Opened outermost (middle :: more))
      (calls : middle.Calls (inner.nested tag) source target scope) (tree : inner.Tree)
      (present : FieldMapper.missing? source target = none) :
      Opened outermost (⟨inner, source, target, scope⟩ :: middle :: more)

/-- A call takes place in a step of the pass, which leaves the open passes as the nested mapper
leaves them. -/
theorem Calls.ran {o : Opening} {mapper : NestedMapper} {source target : Value} {scope : Scope}
    (calls : o.Calls mapper source target scope) :
    ∃ step ∈ o.steps, ∃ before, step.scope = scope ∧
      ((o.pass.runEntry step.result.auto step.entry before).run scope).2 =
        ((mapper.run source target).run scope).2 := by
  cases calls with
  | hands step _ mapper source comes handed =>
    refine ⟨step, comes.mem, target, rfl, ?_⟩
    obtain ⟨v, run⟩ := Pass.runEntry_of_handed step.result.auto handed
    rw [run]
    exact Pass.scope_runNested mapper source v target step.scope
  | converts step before path v place mapper targetFor comes offered lands refused found =>
    refine ⟨step, comes.mem, before, rfl, ?_⟩
    rw [Pass.runEntry_of_offered step.result.auto offered]
    exact Pass.scope_write_of_find lands refused found step.scope

/-- The passes that are open are those around the outermost one and one for each that was opened
since. -/
theorem Opened.around_eq {outermost innermost : Opening} {more : List Opening}
    (steady : outermost.mapper.Steady) (opened : Opened outermost (innermost :: more)) :
    innermost.mapper.Steady ∧ innermost.around = more.map label ++ outermost.around := by
  generalize equal : innermost :: more = openings at opened
  induction opened generalizing innermost more with
  | alone =>
    cases equal
    exact ⟨steady, rfl⟩
  | inside middle rest inner tag source target scope opened calls tree present ih =>
    cases equal
    obtain ⟨steadyAround, below⟩ := ih rfl
    refine ⟨tree.steady, ?_⟩
    obtain ⟨step, member, -, rfl, -⟩ := calls.ran
    have top : step.scope = middle.around.enter middle.label :=
      steadyAround.scope_of_mem_steps member
    rw [top, below]
    rfl

end Opening

namespace FieldMapper

/-- The open passes are balanced. However a mapper of a tree is run and whatever it comes to, the
passes that were open before are open afterwards. While an entry of a pass is applied, there is one
label on top of them for each pass that was opened since and is still open, and the innermost label
is that of the source of the pass. -/
theorem scope_balanced [Regex.Engine] (m : FieldMapper) (tree : m.Tree) (source target : Value)
    (scope : Scope) : ((m.map source target).run scope).2 = scope ∧
      ((m.mapInto source target).run scope).2 = scope ∧
      ((m.mapWithResults source target).run scope).2 = scope ∧
      ∀ innermost more, Opening.Opened ⟨m, source, target, scope⟩ (innermost :: more) →
        ∀ step ∈ innermost.steps,
          step.scope = innermost.source.key.text :: more.map Opening.label ++ scope := by
  refine ⟨tree.steady.balanced_map source target scope,
    tree.steady.balanced_mapInto source target scope,
    tree.steady.balanced_mapWithResults source target scope, ?_⟩
  intro innermost more opened step member
  obtain ⟨steady, around⟩ := opened.around_eq tree.steady
  have top : step.scope = innermost.around.enter innermost.label :=
    steady.scope_of_mem_steps member
  rw [top, around]
  rfl

end FieldMapper

/-- The standard converters run nothing. -/
theorem ConversionRegistry.tree_standard [Regex.Engine] :
    (ConversionRegistry.standard : ConversionRegistry Scoped).Everywhere TypedConverter.Tree :=
  .standard fun f => .leaf _ fun v _ => .pure (f v)

/-- The nested mappers of the entries, and all registered converters, are those of a tree. -/
structure FieldMapper.Rooted [Regex.Engine] (m : FieldMapper) : Prop where
  entries : ∀ e ∈ m.entries, ∀ mapper, e.action.mapper? = some mapper → mapper.Tree
  converters : m.conversions.Everywhere TypedConverter.Tree

theorem FieldMapper.Rooted.tree [Regex.Engine] {m : FieldMapper} (rooted : m.Rooted) : m.Tree :=
  .intro m rooted.entries fun _ _ _ found => rooted.converters.of_find found

/-- A mapper whose entries write to paths by themselves reaches what its converters reach. -/
theorem FieldMapper.Rooted.of_paths [Regex.Engine] {m : FieldMapper}
    (placed : ∀ e ∈ m.entries, e.action.path?.isSome = true)
    (converters : m.conversions.Everywhere TypedConverter.Tree) : m.Rooted := by
  refine ⟨?_, converters⟩
  intro e member mapper hands
  obtain ⟨path, writes⟩ := Option.isSome_iff_exists.mp (placed e member)
  exact absurd hands (Action.mapper?_ne_some writes mapper)

/-! ## Packing inside shipping -/

namespace Shipment

theorem packing_tree : packing.Tree :=
  (FieldMapper.Rooted.of_paths (by decide) ConversionRegistry.tree_standard).tree

theorem shipping_tree : shipping.Tree := by
  have packs : TypedConverter.Tree ((packing.nested 0).toConverter fun _ t => t.emptyRecord) :=
    .branch _ _ (.branch packing 0 packing_tree)
  exact (FieldMapper.Rooted.of_paths (by decide) (.add .empty _ _ packs)).tree

/-- The pass that ships an order at a dock. -/
def atDock : Opening := ⟨shipping, order, shipment, ["dock"]⟩

/-- The shipment once the port is copied. -/
def shipmentToPerth : Value :=
  .record ⟨.typed ⟨"Shipment", [⟨"port", .string, true⟩, ⟨"cargo", .record "Parcel", true⟩,
    ⟨"date", .any, true⟩]⟩, [("port", .string "Perth")]⟩

/-- A crate with its weight. -/
def lightCrate : Value := .record ⟨.named "Crate", [("weight", .string "3kg")]⟩

/-- The pass that packs the crate while the order is shipped. -/
def inHold : Opening := ⟨packing, lightCrate, .emptyNamed "Parcel", ["record", "dock"]⟩

theorem comes_to_cargo : ∃ result, atDock.Comes ⟨Entry.copy "cargo", ["record", "dock"], result⟩
    shipmentToPerth := by
  let port : Step :=
    ⟨Entry.copy "port", ["record", "dock"], ⟨"port", "port", false, .success (.string "Perth")⟩⟩
  exact ⟨_, [port], _, rfl, .next port rfl (.done _ _)⟩

theorem opened_inHold : Opening.Opened atDock [inHold, atDock] := by
  obtain ⟨result, comes⟩ := comes_to_cargo
  refine .inside atDock [] packing 0 lightCrate (.emptyNamed "Parcel") ["record", "dock"]
    (.alone rfl) ?_ packing_tree rfl
  exact .converts ⟨Entry.copy "cargo", ["record", "dock"], result⟩ shipmentToPerth
    (.ofProperty "cargo") lightCrate ⟨.record "Parcel", _⟩ (packing.nested 0)
    (fun _ t => t.emptyRecord) comes rfl (.field _ "cargo" rfl rfl) rfl rfl

/-- While the crate is packed, there are two labels on top of the dock. -/
theorem shipping_scope_balanced :
    shipping.Tree ∧ ((shipping.map order shipment).run ["dock"]).2 = ["dock"] ∧
      ((shipping.mapInto order shipment).run ["dock"]).2 = ["dock"] ∧
      ((shipping.mapWithResults order shipment).run ["dock"]).2 = ["dock"] ∧
      inHold.steps.length = 2 ∧
      ∀ step ∈ inHold.steps, step.scope = ["record<Crate>", "record", "dock"] := by
  obtain ⟨mapped, mappedInto, reported, inside⟩ :=
    FieldMapper.scope_balanced shipping shipping_tree order shipment ["dock"]
  exact ⟨shipping_tree, mapped, mappedInto, reported, rfl, inside inHold [atDock] opened_inHold⟩

end Shipment

end Remap
