import Remap.Proofs.Definition.Declared
import Remap.Proofs.Definition.Targets
import Remap.Proofs.Json.WellFormed
import Remap.Proofs.Mapping.Nesting
import Remap.Proofs.Mapping.WellFormed
import Remap.Regex.Reader

/-!
# Built mappers leave well-formed values

The converters that a definition gives to its entries are transforms, and its nested mappers were
built in the same way. So built mappers are sound.

Main statement: nothing that is done to well-formed values, down to a whole pass of a built mapper,
leaves a value that is not well-formed.
-/

namespace Remap

section

variable [Regex.Engine]

namespace Definition

variable {types : TypeRegistry}

/-- The entry that a rule adds converts by a transform, if it converts. -/
theorem converters_of_addRule {rule : Rule} {m m' : FieldMapper} {position : Nat} {e : Entry}
    (added : addRule types m position rule = .ok m') (member : e ∈ m'.entries) :
    e ∈ m.entries ∨ ∀ c, e.action.converter? = some c → c.Sound := by
  cases rule with
  | field source target transform condition =>
    rw [addRule] at added
    obtain ⟨_, _, _, -, -, -, rfl⟩ := FieldMapper.addField_eq_ok.mp added
    refine (FieldMapper.mem_entries_addEntry member).imp_right ?_
    rintro rfl c runs
    obtain ⟨t, -, rfl⟩ := Option.map_eq_some_iff.mp runs
    exact Converter.sound_transform t
  | fanOut =>
    rw [addRule] at added
    obtain ⟨_, -, added⟩ := bind_eq_ok.mp added
    obtain ⟨_, _, -, -, rfl⟩ := FieldMapper.addFanOut_eq_ok.mp added
    refine (FieldMapper.mem_entries_addEntry member).imp_right ?_
    rintro rfl c runs
    cases runs
  | multiSource =>
    rw [addRule] at added
    obtain ⟨_, -, added⟩ := bind_eq_ok.mp added
    obtain ⟨_, -, rfl⟩ := FieldMapper.addWhole_eq_ok.mp added
    refine (FieldMapper.mem_entries_addEntry member).imp_right ?_
    rintro rfl c runs
    cases runs
  | assemble sources target assembler condition =>
    rw [addRule] at added
    obtain ⟨_, _, _, -, -, -, rfl⟩ := FieldMapper.addAssembled_eq_ok.mp added
    refine (FieldMapper.mem_entries_addEntry member).imp_right ?_
    rintro rfl c runs
    cases runs
    exact Converter.sound_transform assembler
  | nestedFields stem target assembler condition =>
    rw [addRule] at added
    obtain ⟨-, _, _, -, -, rfl⟩ := FieldMapper.addGroup_eq_ok.mp added
    refine (FieldMapper.mem_entries_addEntry member).imp_right ?_
    rintro rfl c runs
    cases runs
    exact Converter.sound_transform assembler
  | nested =>
    rw [addRule] at added
    obtain ⟨_, -, added⟩ := bind_eq_ok.mp added
    obtain ⟨_, -, added⟩ := bind_eq_ok.mp added
    obtain ⟨_, _, -, rfl⟩ := FieldMapper.addNested_eq_ok.mp added
    exact .inl member

/-- A rule keeps a mapper sound if the mapper of the definition inside it is. -/
theorem sound_of_addRule {rule : Rule} {m m' : FieldMapper} {position : Nat} (sound : m.Sound)
    (added : addRule types m position rule = .ok m')
    (below : ∀ mapping inner, rule.mapping? = some mapping →
      buildWith types mapping = .ok inner → inner.Sound) : m'.Sound := by
  refine ⟨?_, ?_⟩
  · intro e member
    rcases converters_of_addRule added member with old | converts
    · exact sound.entries e old
    · rcases handed_of_addRule added member with old | handed
      · exact sound.entries e old
      · refine ⟨converts, ?_⟩
        intro mapper hands
        obtain ⟨mapping, inner, inside, built, rfl⟩ := handed mapper hands
        exact (below mapping inner (RuleOf.mapping?_of_inside? inside) built).nested position
  · cases adds_of_addRule added with
    | writes | hands =>
      rw [FieldMapper.conversions_addEntry]
      exact sound.conversions
    | converts mapping inner source name nested built _ =>
      have inside : rule.mapping? = some mapping := by
        rw [nested]
        rfl
      have converts := ((below mapping inner inside built).nested position).toConverter
        fun _ t => types.wellFormed_emptyFor t
      exact sound.conversions.add source (.record (some name)) converts

theorem keeps_sound (types : TypeRegistry) : Keeps types (fun _ => True) FieldMapper.Sound where
  start _ := ⟨List.forall_mem_nil _, ConversionRegistry.sound_standard⟩
  rule _ _ _ _ _ sound added below := sound_of_addRule sound added below
  inside _ _ _ _ _ _ := trivial

/-- Built mappers are sound. -/
theorem sound_of_build {d : Definition} {m : FieldMapper} (built : d.build = .ok m) : m.Sound := by
  obtain ⟨types, -, built⟩ := bind_eq_ok.mp built
  exact (keeps_sound types).of_buildWith (fun _ _ => trivial) built

end Definition

/-- Nothing that is done to well-formed values leaves one that is not. Fields are stored in records,
replaced and taken away, documents are read, empty records are made and others bound to registered
types, values are written at paths with any sound coercer and converted by the standard converters,
and built mappers map, whether or not their entries fail. -/
theorem operations_keep_wellFormed :
    (∀ (r : Record) (name : String) (v : Value), (Value.record r).WellFormed → v.WellFormed →
      (Value.record (r.insertIfAccepted name v)).WellFormed ∧
        (∀ previous after, r.insert name v = .ok (previous, after) →
          (Value.record after).WellFormed ∧ ∀ w ∈ previous, w.WellFormed) ∧
        (Value.record (r.replace name v).2).WellFormed ∧
        (Value.record (r.erase name)).WellFormed) ∧
      (∀ j : Json, j.Distinct → (Value.ofJson j).WellFormed) ∧
      (∀ text j, Json.read text = some j → j.Distinct) ∧
      (∀ (types : TypeRegistry) name v, types.newRecord name = .ok v → v.WellFormed) ∧
      (∀ (types : TypeRegistry) name v w, v.WellFormed → types.instantiate name v = .ok w →
        w.WellFormed) ∧
      (∀ (path : Path) (coercer : Coercer Scoped) root v scope, coercer.Sound → root.WellFormed →
        v.WellFormed → ((path.writeInto coercer root v).run scope).1.2.WellFormed) ∧
      (∀ v t w scope scope', v.WellFormed →
        ((ConversionRegistry.standard : ConversionRegistry Scoped).convert v t).run.run scope =
          (.ok w, scope') → w.WellFormed) ∧
      (∀ (d : Definition) m source target scope, d.build = .ok m → source.isNull = false →
        target.isNull = false → source.WellFormed → target.WellFormed →
          ∃ results last scope',
            (m.mapWithResults source target).run scope = (.ok (results, last), scope') ∧
              last.WellFormed ∧
              ∀ r ∈ results, ∀ v, r.outcome = .success v → v.WellFormed) := by
  refine ⟨?_, ?_, ?_, ?_, ?_, ?_, ?_, ?_⟩
  · intro r name v record content
    have formed : Record.WellFormed r := record
    refine ⟨formed.insertIfAccepted name content, ?_, formed.replace name content,
      formed.erase name⟩
    intro previous after done
    exact formed.insert content done
  · intro j distinct
    exact Value.wellFormed_ofJson distinct
  · intro text j read
    exact Json.distinct_of_read read
  · intro types name v made
    exact TypeRegistry.wellFormed_of_newRecord made
  · intro types name v w formed made
    exact TypeRegistry.wellFormed_of_instantiate formed made
  · intro path coercer root v scope sound formed content
    exact Path.wellFormed_writeInto sound path formed content scope
  · intro v t w scope scope' formed converted
    exact ConversionRegistry.sound_standard.wellFormed_of_convert formed converted
  · intro d m source target scope built hasSource hasTarget given formed
    obtain ⟨reported, last⟩ := (Definition.sound_of_build built).run given formed scope
    exact ⟨_, _, _, m.run_mapWithResults hasSource hasTarget scope, last, reported⟩

end

namespace Shipment

theorem lightCrate_wellFormed : lightCrate.WellFormed := by
  refine .record _ (.of_accepts (by decide) (by decide)) ?_
  exact List.forall_mem_singleton.mpr (.string "3kg")

theorem order_wellFormed : order.WellFormed := by
  refine .record _ (.of_accepts (by decide) (by decide)) ?_
  simp only [List.forall_mem_cons]
  exact ⟨.string "Perth", lightCrate_wellFormed, .string "Monday", List.forall_mem_nil _⟩

theorem shipment_wellFormed : shipment.WellFormed := by
  refine .record _ (.of_accepts (by decide) (by decide)) ?_
  exact List.forall_mem_singleton.mpr (.string "Sydney")

/-- The registry that knows parcels only. -/
def parcels : TypeRegistry := .register .empty parcelType

/-- Around booking an order all values are well-formed: an order to which a port is added, one whose
text names the port twice, parcels that are made or bound, a shipment whose port is written, a truth
value in words, and what the shipment is in the end. -/
theorem booking_keeps_wellFormed :
    (∃ previous after, RecordOf.insert .unnamed "port" (.string "Sydney") = .ok (previous, after) ∧
        (Value.record after).WellFormed) ∧
      (∃ j, Json.read "\x7b\"port\":null,\"port\":\"Perth\"\x7d" = some j ∧
        (Value.ofJson j).WellFormed) ∧
      (∃ v, parcels.newRecord "Parcel" = .ok v ∧ v.WellFormed) ∧
      (∃ v, parcels.instantiate "Parcel" lightCrate = .ok v ∧ v.WellFormed) ∧
      (((Path.ofProperty "port").writeInto
        (Coercer.ofRegistries .standard parcels : Coercer Scoped) shipment
          (.string "Perth")).run []).1.2.WellFormed ∧
      (∃ v scope', ((ConversionRegistry.standard : ConversionRegistry Scoped).convert
        (.boolean true) .string).run.run [] = (.ok v, scope') ∧ v.WellFormed) ∧
      ∃ m results last scope', booking.build = .ok m ∧ order.isNull = false ∧
        shipment.isNull = false ∧
        (m.mapWithResults order shipment).run [] = (.ok (results, last), scope') ∧
          last.WellFormed := by
  obtain ⟨stored, imported, read, made, bound, written, converted, mapped⟩ :=
    operations_keep_wellFormed
  have document : Json.read "\x7b\"port\":null,\"port\":\"Perth\"\x7d" =
      some (.object [("port", .string "Perth")]) := by cbv
  have parcel : parcels.instantiate "Parcel" lightCrate =
      .ok (.record ⟨.typed parcelType, [("weight", .string "3kg")]⟩) := by cbv
  have coercer := Coercer.sound_ofRegistries ConversionRegistry.sound_standard parcels
  obtain ⟨results, last, scope', ran, formed, -⟩ :=
    mapped booking _ order shipment [] rfl rfl rfl order_wellFormed shipment_wellFormed
  refine ⟨⟨_, _, rfl, ?_⟩, ⟨_, document, ?_⟩, ⟨_, rfl, ?_⟩, ⟨_, parcel, ?_⟩, ?_, ⟨_, _, rfl, ?_⟩,
    ⟨_, results, last, scope', rfl, rfl, rfl, ran, formed⟩⟩
  · have empty : Record.WellFormed .unnamed := .empty rfl
    exact ((stored _ "port" (.string "Sydney") empty (.string "Sydney")).2.1 _ _ rfl).1
  · exact imported _ (read _ _ document)
  · exact made parcels "Parcel" _ rfl
  · exact bound parcels "Parcel" lightCrate _ lightCrate_wellFormed parcel
  · exact written _ _ _ _ [] coercer shipment_wellFormed (.string "Perth")
  · exact converted (.boolean true) .string _ [] _ (.boolean true) rfl

end Shipment

end Remap
