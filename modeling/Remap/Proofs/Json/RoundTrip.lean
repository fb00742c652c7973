import Remap.Proofs.Json.WellFormed
import Remap.Proofs.Model.Untyped

/-!
# Values and documents, there and back

A value that is written as a document and read again is the value without its types, with the
fields of each record in ascending order and null for decimals that are not finite
(`Value.documented`). A document whose integers fit comes back from its value as it is. Main
statement: `Value.json_there_and_back`.
-/

namespace Remap

/-! ## Sorted fields -/

namespace Fields

variable {α β : Type}

/-- The fields sorted by name. -/
def sorted (fields : List (String × α)) : List (String × α) :=
  fields.mergeSort fun a b => decide (a.1 ≤ b.1)

theorem sorted_perm (fields : List (String × α)) : (sorted fields).Perm fields :=
  List.mergeSort_perm fields _

/-- What the fields hold does not matter to their order. -/
theorem sorted_map (content : α → β) (fields : List (String × α)) :
    sorted (fields.map fun field => (field.1, content field.2)) =
      (sorted fields).map fun field => (field.1, content field.2) := by
  unfold sorted
  rw [List.map_mergeSort]
  intro a _ b _
  rfl

theorem Distinct.map {fields : List (String × α)} (distinct : Distinct fields) (content : α → β) :
    Distinct (fields.map fun field => (field.1, content field.2)) := by
  unfold Distinct
  rw [names_map]
  exact distinct

theorem Distinct.of_perm {fields others : List (String × α)} (distinct : Distinct fields)
    (perm : others.Perm fields) : Distinct others := by
  have sameNames : (names others).Perm (names fields) := perm.map _
  exact sameNames.nodup_iff.mpr distinct

end Fields

namespace Json

variable {α : Type} {members : List (String × α)}

/-- Names that do not repeat ascend once they are sorted. -/
theorem ascending_sorted (distinct : Fields.Distinct members) :
    Ascending (Fields.sorted members) := by
  have inOrder : (Fields.names (Fields.sorted members)).Pairwise (· ≤ ·) := by
    refine List.pairwise_map.mpr ((List.pairwise_mergeSort ?_ ?_ members).imp of_decide_eq_true)
    · intro a b c first second
      exact decide_eq_true
        (String.le_trans (of_decide_eq_true first) (of_decide_eq_true second))
    · intro a b
      rw [Bool.or_eq_true, decide_eq_true_eq, decide_eq_true_eq]
      exact String.le_total a.1 b.1
  have once : (Fields.names (Fields.sorted members)).Nodup :=
    distinct.of_perm (Fields.sorted_perm members)
  refine (inOrder.and once).imp ?_
  rintro a b ⟨notLarger, different⟩
  exact Std.lt_of_le_of_ne notLarger different

/-- Members in ascending order are determined by which they are. -/
theorem Ascending.eq_of_perm {others : List (String × α)} (ascending : Ascending members)
    (ascendingOthers : Ascending others) (perm : members.Perm others) : members = others := by
  refine List.Perm.eq_of_pairwise ?_ (List.pairwise_map.mp ascending)
    (List.pairwise_map.mp ascendingOthers) perm
  intro a b _ _ below above
  exact absurd below (String.lt_asymm above)

theorem putMember_perm {name : String} (new : name ∉ Fields.names members) (a : α) :
    (putMember members name a).Perm ((name, a) :: members) := by
  induction members with
  | nil => exact .refl _
  | cons first rest ih =>
    obtain ⟨n, b⟩ := first
    obtain ⟨different, later⟩ := not_or.mp (mt List.mem_cons.mpr new)
    rw [putMember, if_neg different]
    split
    · exact .refl _
    · exact ((ih later).cons (n, b)).trans (.swap (name, a) (n, b) rest)

/-- Members whose names are all new are put between those that are there. -/
theorem foldl_putMember_perm {before : List (String × α)}
    (distinct : Fields.Distinct (before ++ members)) :
    (members.foldl (fun sorted m => putMember sorted m.1 m.2) before).Perm (before ++ members) := by
  induction members generalizing before with
  | nil =>
    rw [List.append_nil]
    exact .refl _
  | cons m rest ih =>
    have new : m.1 ∉ Fields.names before := by
      intro old
      rw [Fields.Distinct, Fields.names_append, Fields.names_cons] at distinct
      exact (List.nodup_append.mp distinct).2.2 m.1 old m.1 List.mem_cons_self rfl
    have moved : (putMember before m.1 m.2 ++ rest).Perm (before ++ m :: rest) :=
      ((putMember_perm new m.2).append_right rest).trans List.perm_middle.symm
    exact (ih (distinct.of_perm moved)).trans moved

theorem sortMembers_perm (distinct : Fields.Distinct members) :
    (sortMembers members).Perm members :=
  foldl_putMember_perm distinct

theorem ascending_sortMembers (members : List (String × α)) : Ascending (sortMembers members) := by
  suffices kept : ∀ before : List (String × α), Ascending before →
      Ascending (members.foldl (fun sorted m => putMember sorted m.1 m.2) before) from
    kept [] .nil
  induction members with
  | nil =>
    intro before ascending
    exact ascending
  | cons m rest ih =>
    intro before ascending
    exact ih _ (ascending_putMember ascending m.1 m.2)

/-- Members with distinct names are stored in the order of their names. -/
theorem sortMembers_eq_sorted (distinct : Fields.Distinct members) :
    sortMembers members = Fields.sorted members :=
  (ascending_sortMembers members).eq_of_perm (ascending_sorted distinct)
    ((sortMembers_perm distinct).trans (Fields.sorted_perm members).symm)

/-- Members that ascend are stored as they are. -/
theorem sortMembers_of_ascending (ascending : Ascending members) :
    sortMembers members = members :=
  (ascending_sortMembers members).eq_of_perm ascending (sortMembers_perm ascending.distinct)

/-- A document with finite numbers and ascending members whose integers fit in sixty-four bits
with sign. -/
inductive Regular : Json → Prop
  | null : Regular .null
  | boolean (b : Bool) : Regular (.boolean b)
  | integer (n : Int) (minimum_le : -9223372036854775808 ≤ n)
      (le_maximum : n ≤ 9223372036854775807) : Regular (.integer n)
  | float (x : Float) (finite : x.isFinite = true) : Regular (.float x)
  | string (s : String) : Regular (.string s)
  | array (items : List Json) (each : ∀ j ∈ items, Regular j) : Regular (.array items)
  | object (members : List (String × Json)) (ascending : Ascending members)
      (each : ∀ member ∈ members, Regular member.2) : Regular (.object members)

end Json

/-! ## There and back -/

namespace Value

/-- The value as documents know it: without types, the fields of each record sorted by name, and
null for decimals that are not finite. -/
def documented (v : Value) : Value :=
  v.rebuild (fun x => if x.isFinite then .decimal x else .null)
    fun r => ⟨.unnamed, Fields.sorted r.fields⟩

theorem documented_list (items : List Value) :
    documented (.list items) = .list (items.map documented) :=
  rebuild_list items

theorem documented_record (r : Record) :
    documented (.record r) = .record ⟨.unnamed,
      Fields.sorted (r.fields.map fun field => (field.1, documented field.2))⟩ :=
  rebuild_record r

/-- A value is read back from its document as documents know it. -/
theorem ofJson_toJson {v : Value} (distinct : v.DistinctNames) :
    ofJson v.toJson = v.documented := by
  induction distinct with
  | null => rfl
  | boolean b => rfl
  | integer n => rw [toJson, ofJson, Integer.ofInt?_val]; rfl
  | decimal x =>
    rw [toJson, documented, rebuild]
    split
    · rfl
    · rfl
  | string s => rfl
  | list items each ih =>
    rw [toJson, ofJson, toJsonItems_eq_map, ofJsonItems_eq_map, List.map_map, documented_list]
    exact congrArg Value.list (List.map_congr_left ih)
  | record r distinct each ih =>
    obtain ⟨shape, fields⟩ := r
    have inside : fields.map (fun field => (field.1, ofJson field.2.toJson)) =
        fields.map fun field => (field.1, field.2.documented) :=
      List.map_congr_left fun field member => congrArg (Prod.mk field.1) (ih field member)
    rw [toJson, ofJson, toJsonMembers_eq_map, ofJsonMembers_eq_map,
      Json.sortMembers_eq_sorted (distinct.map toJson), ← Fields.sorted_map, List.map_map,
      documented_record, ← inside]
    rfl

/-- A document is written back from its value as it is. -/
theorem toJson_ofJson {j : Json} (regular : j.Regular) : (ofJson j).toJson = j := by
  induction regular with
  | null => rfl
  | boolean b => rfl
  | integer n minimum_le le_maximum =>
    have fits : Integer.ofInt? n = some ⟨n, minimum_le, le_maximum⟩ := Integer.ofInt?_val ⟨n, _, _⟩
    rw [ofJson, fits]
    rfl
  | float x finite => rw [ofJson, toJson, if_pos finite]
  | string s => rfl
  | array items each ih =>
    rw [ofJson, toJson, ofJsonItems_eq_map, toJsonItems_eq_map, List.map_map]
    exact congrArg Json.array ((List.map_congr_left ih).trans (List.map_id items))
  | object members ascending each ih =>
    have inside : members.map (fun member => (member.1, (ofJson member.2).toJson)) = members :=
      (List.map_congr_left fun member among => congrArg (Prod.mk member.1) (ih member among)).trans
        (List.map_id members)
    rw [ofJson, toJson, ofJsonMembers_eq_map, toJsonMembers_eq_map, List.map_map]
    exact congrArg Json.object
      ((congrArg Json.sortMembers inside).trans (Json.sortMembers_of_ascending ascending))

/-- Writing and reading a value leaves what documents know of it, whenever its records hold no name
twice; reading and writing a regular document leaves it as it is. -/
theorem json_there_and_back :
    (∀ v : Value, v.DistinctNames → ofJson v.toJson = v.documented) ∧
      ∀ j : Json, j.Regular → (ofJson j).toJson = j :=
  ⟨fun _ => ofJson_toJson, fun _ => toJson_ofJson⟩

end Value

/-! ## A parcel and a note -/

namespace Depot

/-- A parcel with a type name, its fields in no particular order. -/
def parcel : Value :=
  .record ⟨.named "Parcel",
    [("weight", .decimal (1.0 / 0.0)),
      ("stops", .list [.integer ⟨12, by decide, by decide⟩, .decimal 1.5]),
      ("address", .record ⟨.unnamed, [("town", .string "Delft"), ("street", .null)]⟩)]⟩

/-- The parcel as its document has it. -/
def plainParcel : Value :=
  .record ⟨.unnamed,
    [("address", .record ⟨.unnamed, [("street", .null), ("town", .string "Delft")]⟩),
      ("stops", .list [.integer ⟨12, by decide, by decide⟩, .decimal 1.5]),
      ("weight", .null)]⟩

theorem parcel_distinct : parcel.DistinctNames := by
  refine .record _ (by decide) ?_
  rintro field (_ | ⟨_, _ | ⟨_, _ | ⟨_, ⟨⟩⟩⟩⟩)
  · exact .decimal _
  · refine .list _ ?_
    rintro v (_ | ⟨_, _ | ⟨_, ⟨⟩⟩⟩)
    · exact .integer _
    · exact .decimal _
  · refine .record _ (by decide) ?_
    rintro field (_ | ⟨_, _ | ⟨_, ⟨⟩⟩⟩)
    · exact .string _
    · exact .null

theorem parcel_documented : parcel.documented = plainParcel := by
  have endless : (1.0 / 0.0 : Float).isFinite = false := by decide
  have short : (1.5 : Float).isFinite = true := by decide
  simp [parcel, plainParcel, Value.documented, Value.rebuild, Fields.sorted, List.mergeSort,
    endless, short]

/-- A note with a list in it. -/
def note : Json :=
  .object [("amount", .integer (-3)), ("tags", .array [.string "fragile", .float 0.5])]

theorem note_regular : note.Regular := by
  refine .object _ (by decide) ?_
  rintro member (_ | ⟨_, _ | ⟨_, ⟨⟩⟩⟩)
  · exact .integer _ (by decide) (by decide)
  · refine .array _ ?_
    rintro j (_ | ⟨_, _ | ⟨_, ⟨⟩⟩⟩)
    · exact .string _
    · exact .float _ (by decide)

/-- The parcel is read back without its type, sorted and with null for a weight without end; the
note is written back as it is. -/
theorem parcel_and_note_there_and_back :
    (parcel.DistinctNames ∧ Value.ofJson parcel.toJson = parcel.documented ∧
        parcel.documented = plainParcel) ∧
      note.Regular ∧ (Value.ofJson note).toJson = note :=
  ⟨⟨parcel_distinct, Value.json_there_and_back.1 parcel parcel_distinct, parcel_documented⟩,
    note_regular, Value.json_there_and_back.2 note note_regular⟩

end Depot

end Remap
