import Remap.Json.Bridge
import Remap.Json.Reader
import Remap.Proofs.Model.WellFormed

/-!
# Documents stand for well-formed values

Members are put into an object in ascending order, so the objects of a document that was read hold
no name twice, and neither do the records that they become.

Main statements: a document whose objects hold distinct names stands for a well-formed value, and
every document that is read is one.
-/

namespace Remap

namespace Json

/-- No object in the document holds a name twice. -/
inductive Distinct : Json → Prop
  | null : Distinct .null
  | boolean (b : Bool) : Distinct (.boolean b)
  | integer (n : Int) : Distinct (.integer n)
  | float (x : Float) : Distinct (.float x)
  | string (s : String) : Distinct (.string s)
  | array (items : List Json) (each : ∀ j ∈ items, Distinct j) : Distinct (.array items)
  | object (members : List (String × Json)) (distinct : Fields.Distinct members)
      (each : ∀ member ∈ members, Distinct member.2) : Distinct (.object members)

end Json

/-! ## From documents to values -/

namespace Value

/-- A document whose objects hold distinct names stands for a well-formed value. -/
theorem wellFormed_ofJson {j : Json} (distinct : j.Distinct) : (ofJson j).WellFormed := by
  induction distinct with
  | null => exact .null
  | boolean b => exact .boolean b
  | integer n =>
    rw [ofJson]
    split
    · exact .integer _
    · exact .decimal _
  | float x => exact .decimal x
  | string s => exact .string s
  | array items each ih =>
    rw [ofJson, ofJsonItems_eq_map]
    refine .list _ ?_
    intro v among
    obtain ⟨j, member, rfl⟩ := List.mem_map.mp among
    exact ih j member
  | object members distinct each ih =>
    rw [ofJson, ofJsonMembers_eq_map]
    refine .record _ (.of_accepts ?_ fun _ _ => rfl) ?_
    · show (Fields.names _).Nodup
      rw [Fields.names_map]
      exact distinct
    · intro field among
      obtain ⟨member, inside, rfl⟩ := List.mem_map.mp among
      exact ih member inside

end Value

/-! ## What is read -/

namespace Json

variable {α : Type}

/-- The names ascend. -/
def Ascending (members : List (String × α)) : Prop := (Fields.names members).Pairwise (· < ·)

instance (members : List (String × α)) : Decidable (Ascending members) :=
  inferInstanceAs (Decidable ((Fields.names members).Pairwise (· < ·)))

theorem Ascending.nil : Ascending ([] : List (String × α)) := List.Pairwise.nil

theorem Ascending.distinct {members : List (String × α)} (ascending : Ascending members) :
    Fields.Distinct members :=
  ascending.imp String.ne_of_lt

theorem mem_putMember {members : List (String × α)} {name : String} {a : α} {member : String × α}
    (among : member ∈ putMember members name a) : member = (name, a) ∨ member ∈ members := by
  induction members with
  | nil => exact .inl (List.mem_singleton.mp among)
  | cons first rest ih =>
    obtain ⟨n, b⟩ := first
    rw [putMember] at among
    split at among
    · rcases List.mem_cons.mp among with here | later
      · exact .inl here
      · exact .inr later
    · split at among
      · next same =>
        rcases List.mem_cons.mp among with here | later
        · rw [here, same]
          exact .inl rfl
        · exact .inr (List.mem_cons_of_mem _ later)
      · rcases List.mem_cons.mp among with here | later
        · exact .inr (List.mem_cons.mpr (.inl here))
        · exact (ih later).imp_right (List.mem_cons_of_mem _)

/-- Members are put where they belong. -/
theorem ascending_putMember {members : List (String × α)} (ascending : Ascending members)
    (name : String) (a : α) : Ascending (putMember members name a) := by
  induction members with
  | nil => exact List.pairwise_singleton _ _
  | cons first rest ih =>
    obtain ⟨n, b⟩ := first
    obtain ⟨below, ascendingRest⟩ := List.pairwise_cons.mp ascending
    rw [putMember]
    split
    · next smaller =>
      refine List.pairwise_cons.mpr ⟨?_, ascending⟩
      intro other member
      rcases List.mem_cons.mp member with here | later
      · rw [here]
        exact smaller
      · exact String.lt_trans smaller (below other later)
    · next notSmaller =>
      split
      · exact ascending
      · next different =>
        refine List.pairwise_cons.mpr ⟨?_, ih ascendingRest⟩
        intro other member
        obtain ⟨found, among, rfl⟩ := List.mem_map.mp member
        rcases mem_putMember among with here | old
        · rw [here]
          exact Std.lt_of_le_of_ne (String.not_lt.mp notSmaller) (Ne.symm different)
        · exact below found.1 (List.mem_map_of_mem old)

/-! ## Numbers and words -/

variable {negative : Bool} {significand : Nat} {exponent : Int} {cs rest : List Char} {j : Json}

theorem distinct_of_floating (read : floating negative significand exponent = some j) :
    j.Distinct := by
  obtain ⟨x, -, rfl⟩ := Option.map_eq_some_iff.mp read
  exact .float _

theorem distinct_of_readExponent
    (read : readExponent negative significand exponent cs = some (j, rest)) : j.Distinct := by
  unfold readExponent at read
  dsimp only at read
  -- The sign is one of three cases, and what follows is the same in all of them.
  split at read
  all_goals
    dsimp only at read
    split at read
    · cases read
    · split at read
      · split at read
        · cases read
        · cases read
          exact .float _
      · obtain ⟨x, floated, read⟩ := Option.bind_eq_some_iff.mp read
        cases read
        exact distinct_of_floating floated

theorem distinct_of_readScale
    (read : readScale negative significand exponent cs = some (j, rest)) : j.Distinct := by
  unfold readScale at read
  split at read
  · exact distinct_of_readExponent read
  · exact distinct_of_readExponent read
  · obtain ⟨x, floated, equal⟩ := Option.map_eq_some_iff.mp read
    cases equal
    exact distinct_of_floating floated

theorem distinct_of_readPlaces
    (read : readPlaces negative significand exponent cs = some (j, rest)) : j.Distinct := by
  unfold readPlaces at read
  dsimp only at read
  split at read
  · split at read
    · exact distinct_of_readScale read
    · cases read
  · cases read

theorem distinct_of_readNumber (read : readNumber negative cs = some (j, rest)) : j.Distinct := by
  unfold readNumber at read
  split at read
  · cases read
  · split at read
    · cases read
    · split at read
      · cases read
      · dsimp only at read
        split at read
        · exact distinct_of_readPlaces read
        · exact distinct_of_readExponent read
        · exact distinct_of_readExponent read
        · split at read
          · obtain ⟨x, floated, equal⟩ := Option.map_eq_some_iff.mp read
            cases equal
            exact distinct_of_floating floated
          · split at read
            · cases read
              exact .integer _
            · split at read
              · cases read
                exact .float _
              · cases read
                exact .integer _

theorem distinct_of_readWord {word : String} {value : Json} (plain : value.Distinct)
    (read : readWord word value cs = some (j, rest)) : j.Distinct := by
  unfold readWord at read
  dsimp only at read
  split at read
  · cases read
    exact plain
  · cases read

/-! ## Arrays and objects -/

/-- What is read with some fuel holds no name twice, if that is so of what was collected before. -/
structure ReadsDistinct (fuel : Nat) : Prop where
  value : ∀ {depth cs j rest}, readValue fuel depth cs = some (j, rest) → j.Distinct
  items : ∀ {depth got cs items rest}, (∀ j ∈ got, Distinct j) →
    readItems fuel depth got cs = some (items, rest) → ∀ j ∈ items, j.Distinct
  members : ∀ {depth got cs members rest}, Ascending got →
    (∀ member ∈ got, Distinct member.2) →
      readMembers fuel depth got cs = some (members, rest) →
        Ascending members ∧ ∀ member ∈ members, member.2.Distinct

namespace ReadsDistinct

variable {fuel depth : Nat}

theorem zero : ReadsDistinct 0 := by
  refine ⟨?_, ?_, ?_⟩
  · intro depth cs j rest read
    rw [readValue] at read
    cases read
  · intro depth got cs items rest _ read
    rw [readItems] at read
    cases read
  · intro depth got cs members rest _ _ read
    rw [readMembers] at read
    cases read

theorem value_succ (below : ReadsDistinct fuel)
    (read : readValue (fuel + 1) depth cs = some (j, rest)) : j.Distinct := by
  rw [readValue] at read
  split at read
  · obtain ⟨⟨s, after⟩, -, equal⟩ := Option.map_eq_some_iff.mp read
    cases equal
    exact .string s
  · cases depth with
    | zero => cases read
    | succ depth =>
      dsimp only at read
      split at read
      · cases read
        exact .array [] (List.forall_mem_nil _)
      · obtain ⟨⟨items, after⟩, inner, equal⟩ := Option.map_eq_some_iff.mp read
        cases equal
        exact .array items (below.items (List.forall_mem_nil _) inner)
  · cases depth with
    | zero => cases read
    | succ depth =>
      dsimp only at read
      split at read
      · cases read
        exact .object [] List.nodup_nil (List.forall_mem_nil _)
      · obtain ⟨⟨members, after⟩, inner, equal⟩ := Option.map_eq_some_iff.mp read
        cases equal
        obtain ⟨ascending, each⟩ := below.members .nil (List.forall_mem_nil _) inner
        exact .object members ascending.distinct each
  · exact distinct_of_readNumber read
  · exact distinct_of_readWord .null read
  · exact distinct_of_readWord (.boolean true) read
  · exact distinct_of_readWord (.boolean false) read
  · exact distinct_of_readNumber read

theorem items_succ (below : ReadsDistinct fuel) {got items : List Json}
    (each : ∀ j ∈ got, Distinct j)
    (read : readItems (fuel + 1) depth got cs = some (items, rest)) : ∀ j ∈ items, j.Distinct := by
  rw [readItems] at read
  split at read
  · cases read
  · next item after first =>
    have grown : ∀ j ∈ item :: got, Distinct j := by
      intro j member
      rcases List.mem_cons.mp member with rfl | old
      · exact below.value first
      · exact each j old
    split at read
    · exact below.items grown read
    · cases read
      intro j member
      exact grown j (List.mem_reverse.mp member)
    · cases read

theorem members_succ (below : ReadsDistinct fuel) {got members : List (String × Json)}
    (ascending : Ascending got) (each : ∀ member ∈ got, Distinct member.2)
    (read : readMembers (fuel + 1) depth got cs = some (members, rest)) :
    Ascending members ∧ ∀ member ∈ members, member.2.Distinct := by
  rw [readMembers] at read
  split at read
  · split at read
    · cases read
    · next name after _ =>
      split at read
      · split at read
        · cases read
        · next content after first =>
          have sorted := ascending_putMember ascending name content
          have grown : ∀ member ∈ putMember got name content, Distinct member.2 := by
            intro member among
            rcases mem_putMember among with rfl | old
            · exact below.value first
            · exact each member old
          split at read
          · exact below.members sorted grown read
          · cases read
            exact ⟨sorted, grown⟩
          · cases read
      · cases read
  · cases read

theorem of_fuel (fuel : Nat) : ReadsDistinct fuel := by
  induction fuel with
  | zero => exact zero
  | succ fuel ih => exact ⟨ih.value_succ, ih.items_succ, ih.members_succ⟩

end ReadsDistinct

/-- In a document that was read no object holds a name twice. -/
theorem distinct_of_read {text : String} {j : Json} (read : Json.read text = some j) :
    j.Distinct := by
  unfold Json.read at read
  dsimp only at read
  split at read
  · next document rest ran =>
    split at read
    · cases read
      exact (ReadsDistinct.of_fuel _).value ran
    · cases read
  · cases read

end Json

end Remap
