import Mathlib.Data.List.Forall2
import Remap.Datum.Basic

/-!
# Tables of named fields

Data are written as tables of fields, some of which are left out, and read by the names of the
fields. `Datum.rows` is such a table. Reading it by its names gives every field back: through the
names alone, next to a tag that says what the fields are, and through any form whose parts show what
they stand for (`Form.Lawful`).
-/

namespace Remap

namespace Datum

/-- The entries for fields; a field without content is left out. -/
def rows (fields : List (String × Option Datum)) : List (Key × Datum) :=
  fields.filterMap fun (name, slot) => slot.map fun d => (.name name, d)

variable {name : String} {fields : List (String × Option Datum)}

theorem exists_of_mem_rows {entry : Key × Datum} (member : entry ∈ rows fields) :
    ∃ name ∈ fields.map (·.1), entry.1 = .name name := by
  obtain ⟨⟨name, slot⟩, inside, made⟩ := List.mem_filterMap.mp member
  obtain ⟨d, -, rfl⟩ := Option.map_eq_some_iff.mp made
  exact ⟨name, List.mem_map_of_mem inside, rfl⟩

/-- No row stands for a name that no field has. -/
theorem standing_rows_eq_nil (other : name ∉ fields.map (·.1)) (position : Nat) :
    standing (rows fields) name position = [] := by
  refine List.filter_eq_nil_iff.mpr fun entry member => ?_
  obtain ⟨name', inside, key⟩ := exists_of_mem_rows member
  rw [key, Key.stands, beq_iff_eq]
  rintro rfl
  exact other inside

theorem standing_append (entries more : List (Key × Datum)) (name : String) (position : Nat) :
    standing (entries ++ more) name position =
      standing entries name position ++ standing more name position :=
  List.filter_append ..

theorem standing_rows_singleton (name : String) (slot : Option Datum) (position : Nat) :
    standing (rows [(name, slot)]) name position = rows [(name, slot)] := by
  cases slot <;> simp [standing, rows, Key.stands]

/-- Behind entries for other names, the fields are found by their names. -/
theorem slotsFrom_rows (before : List (Key × Datum))
    (others : ∀ name ∈ fields.map (·.1), ∀ position, standing before name position = [])
    (distinct : (fields.map (·.1)).Nodup) (position : Nat) :
    slotsFrom (before ++ rows fields) position (fields.map (·.1)) = some (fields.map (·.2)) := by
  induction fields generalizing before position with
  | nil => rfl
  | cons field fields ih =>
    obtain ⟨name, slot⟩ := field
    obtain ⟨apart, distinct⟩ := List.nodup_cons.mp distinct
    have split : before ++ rows ((name, slot) :: fields) =
        (before ++ rows [(name, slot)]) ++ rows fields := by
      cases slot <;> simp [rows]
    have later : ∀ name' ∈ fields.map (·.1), ∀ position,
        standing (before ++ rows [(name, slot)]) name' position = [] := by
      intro name' inside position
      rw [standing_append, others name' (List.mem_cons_of_mem _ inside), List.nil_append]
      refine standing_rows_eq_nil ?_ position
      intro same
      obtain rfl : name' = name := List.mem_singleton.mp same
      exact apart inside
    have here : standing (before ++ rows ((name, slot) :: fields)) name position =
        rows [(name, slot)] := by
      rw [split, standing_append, standing_append, others name List.mem_cons_self,
        standing_rows_singleton, standing_rows_eq_nil apart, List.nil_append, List.append_nil]
    rw [List.map_cons, slotsFrom, here, split, ih _ later distinct]
    cases slot <;> rfl

/-- The fields of a table are found by their names. -/
theorem slots?_rows (distinct : (fields.map (·.1)).Nodup) :
    (Datum.table (rows fields)).slots? (fields.map (·.1)) = some (fields.map (·.2)) := by
  have named : (rows fields).any (·.1 == .other) = false := by
    rw [List.any_eq_false]
    intro entry member
    obtain ⟨name, -, key⟩ := exists_of_mem_rows member
    simp [key]
  rw [slots?, named]
  exact slotsFrom_rows [] (fun _ _ _ => rfl) distinct 0

/-- A tag in front of fields with other names. -/
theorem single?_tag (other : name ∉ fields.map (·.1)) (tag : Datum) :
    single? name ((.name name, tag) :: rows fields) = some tag := by
  have none : (rows fields).filter (fun entry => entry.1 == .name name) = [] := by
    refine List.filter_eq_nil_iff.mpr fun entry member => ?_
    obtain ⟨name', inside, key⟩ := exists_of_mem_rows member
    rw [key, beq_iff_eq]
    rintro same
    cases same
    exact other inside
  simp [single?, none]

theorem without_tag (other : name ∉ fields.map (·.1)) (tag : Datum) :
    without name ((.name name, tag) :: rows fields) = rows fields := by
  have all : (rows fields).filter (fun entry => entry.1 != .name name) = rows fields := by
    refine List.filter_eq_self.mpr fun entry member => ?_
    obtain ⟨name', inside, key⟩ := exists_of_mem_rows member
    rw [key, bne_iff_ne]
    rintro same
    cases same
    exact other inside
  simp [without, all]

end Datum

/-! ## Forms whose parts show what they stand for -/

namespace Form

variable {m : Type → Type} [Monad m] {α β γ : Type} {shows : α → Datum → Prop}

/-- The reader finds a value wherever the data show. -/
def Finds (shows : α → Datum → Prop) (read : α → m β) (d : Datum) (b : β) : Prop :=
  ∀ a, shows a d → read a = pure b

/-- Each reader finds a value in the field of its name, if the field is there. -/
inductive Found (shows : α → Datum → Prop) : List (String × (α → m β)) →
    List (String × Option Datum) → List (Option β) → Prop
  | nil : Found shows [] [] []
  | missing {name : String} {read : α → m β} {parts : List (String × (α → m β))}
    {fields : List (String × Option Datum)} {bs : List (Option β)}
    (rest : Found shows parts fields bs) :
    Found shows ((name, read) :: parts) ((name, none) :: fields) (none :: bs)
  | present {name : String} {read : α → m β} {d : Datum} {b : β}
    {parts : List (String × (α → m β))} {fields : List (String × Option Datum)}
    {bs : List (Option β)} (finds : Finds shows read d b) (rest : Found shows parts fields bs) :
    Found shows ((name, read) :: parts) ((name, some d) :: fields) (some b :: bs)

/-- The parts of a form show data: each reader of the form finds what is there. -/
structure Lawful (f : Form m α) (shows : α → Datum → Prop) : Prop where
  text : ∀ s, Finds shows f.text (.text s) s
  flag : ∀ b, Finds shows f.flag (.boolean b) b
  optional : ∀ s a, shows a (.text s) → ∃ b, f.optional a = pure (some b) ∧ shows b (.text s)
  items : ∀ ds a, shows a (.list ds) → ∃ items, f.items a = pure items ∧ List.Forall₂ shows items ds
  choice : ∀ words word k, words.idxOf? word = some k → Finds shows (f.choice words) (.text word) k
  fields : ∀ {β : Type} {parts : List (String × (α → m β))} {fields : List (String × Option Datum)}
    {bs : List (Option β)}, Found shows parts fields bs → (fields.map (·.1)).Nodup →
    Finds shows (f.fields parts) (.table (Datum.rows fields)) bs

theorem Found.names_eq {parts : List (String × (α → m β))} {fields : List (String × Option Datum)}
    {bs : List (Option β)} (found : Found shows parts fields bs) :
    parts.map (·.1) = fields.map (·.1) := by
  induction found with
  | nil => rfl
  | missing _ ih => rw [List.map_cons, List.map_cons, ih]
  | present _ _ ih => rw [List.map_cons, List.map_cons, ih]

/-- A field that may be left out. -/
theorem Found.optional {name : String} {read : α → m β} {parts : List (String × (α → m β))}
    {fields : List (String × Option Datum)} {bs : List (Option β)} (slot : Option γ)
    {encode : γ → Datum} {result : γ → β} (finds : ∀ x, Finds shows read (encode x) (result x))
    (rest : Found shows parts fields bs) :
    Found shows ((name, read) :: parts) ((name, slot.map encode) :: fields)
      (slot.map result :: bs) := by
  cases slot with
  | none => exact .missing rest
  | some x => exact .present (finds x) rest

variable [LawfulMonad m] {f : Form m α}

theorem Finds.map {read : α → m β} {d : Datum} {b : β} (finds : Finds shows read d b) (g : β → γ) :
    Finds shows (fun a => do let b ← read a; return g b) d (g b) := by
  intro a shown
  simp only [finds a shown, pure_bind]

theorem readItems_of_finds {read : α → m β} {items : List α} {ds : List Datum} {bs : List β}
    (shown : List.Forall₂ shows items ds) (finds : List.Forall₂ (Finds shows read) ds bs) :
    readItems read items = pure bs := by
  induction shown generalizing bs with
  | nil =>
    cases finds
    rfl
  | cons first _ ih =>
    cases finds with
    | cons finds rest => simp only [readItems, finds _ first, ih rest, pure_bind]

namespace Lawful

variable (lawful : f.Lawful shows)
include lawful

theorem optionalText (s : String) : Finds shows f.optionalText (.text s) (some s) := by
  intro a shown
  obtain ⟨b, present, shown⟩ := lawful.optional s a shown
  simp only [Form.optionalText, present, pure_bind, lawful.text s b shown]

theorem list {read : α → m β} {ds : List Datum} {bs : List β}
    (finds : List.Forall₂ (Finds shows read) ds bs) : Finds shows (f.list read) (.list ds) bs := by
  intro a shown
  obtain ⟨items, found, shown⟩ := lawful.items ds a shown
  simp only [Form.list, found, pure_bind, readItems_of_finds shown finds]

theorem oneOf {choices : List (String × β)} {word : String} {k : Nat} {b : β}
    (position : (choices.map (·.1)).idxOf? word = some k) (choice : choices[k]? = some (word, b)) :
    Finds shows (f.oneOf choices) (.text word) b := by
  intro a shown
  simp only [Form.oneOf, lawful.choice _ _ _ position a shown, pure_bind, choice]

end Lawful

end Form

/-- Data show themselves. -/
theorem Datum.form_lawful (lenient : Bool) : (Datum.form lenient).Lawful Eq where
  text := by rintro s _ rfl; rfl
  flag := by rintro b _ rfl; rfl
  optional := by rintro s _ rfl; exact ⟨_, rfl, rfl⟩
  items := by
    rintro ds _ rfl
    exact ⟨ds, rfl, List.forall₂_refl ds⟩
  choice := by
    rintro words word k position _ rfl
    exact position
  fields := by
    rintro β parts fields bs found distinct _ rfl
    have slots := Datum.slots?_rows distinct
    have reads : Datum.readSlots parts (fields.map (·.2)) = some bs := by
      clear slots distinct
      induction found with
      | nil => rfl
      | missing _ ih => simp [Datum.readSlots, ih]
      | present finds _ ih => simp [Datum.readSlots, finds _ rfl, ih]
    simp only [Datum.form, found.names_eq, slots]
    exact reads

end Remap
