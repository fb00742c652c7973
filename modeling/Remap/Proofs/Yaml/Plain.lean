import Remap.Proofs.Yaml.Documented
import Remap.Yaml.Content

/-!
# Nodes that show data

The data that a tree shows if it has no tags, anchors and aliases: this is what printing leaves
behind. Both ways of reading nodes find them, as a part of a known kind and as data, and follow
nothing on the way.
-/

namespace Remap.Yaml

namespace Node

/-- The data of a tree without tags, anchors and aliases. Collections are nested only so deep. -/
def plainDatum? : (depth : Nat) → Node → Option Datum
  | _, .scalar ⟨none, none⟩ style text => scalarDatum? {} style text
  | depth + 1, .sequence ⟨none, none⟩ items => do
    return .list (← items.mapM (plainDatum? depth))
  | depth + 1, .mapping ⟨none, none⟩ entries => do
    return .table (← entries.mapM fun (key, value) => do
      let key ← plainDatum? depth key
      let value ← plainDatum? depth value
      return (keyOf key, value))
  | _, _ => none

end Node

/-! ## Scalars -/

/-- What a scalar without a tag shows: the text itself unless it is plain, else what it means. -/
inductive ScalarShows : Style → String → Datum → Prop
  | quoted {style : Style} {text : String} (quoted : style ≠ .plain) :
    ScalarShows style text (.text text)
  | text {text : String} (means : meaning text = .text) : ScalarShows .plain text (.text text)
  | null {text : String} (means : meaning text = .null) : ScalarShows .plain text .null
  | boolean {text : String} {b : Bool} (means : meaning text = .boolean b) :
    ScalarShows .plain text (.boolean b)
  | natural {text : String} {n : Nat} (means : meaning text = .integer false n) :
    ScalarShows .plain text (.natural n)
  | negative {text : String} {n : Nat} (means : meaning text = .integer true n) :
    ScalarShows .plain text (.negative n)
  | decimal {text : String} {x : Float} (means : meaning text = .decimal x) :
    ScalarShows .plain text (.decimal x)

theorem scalarShows_of_eq_some {style : Style} {text : String} {d : Datum}
    (h : scalarDatum? {} style text = some d) : ScalarShows style text d := by
  change (if style != .plain then some (Datum.text text) else _) = _ at h
  by_cases plain : style = .plain
  · subst plain
    simp only [bne_self_eq_false, Bool.false_eq_true, if_false] at h
    cases means : meaning text with
    | integer minus n =>
      simp only [means, integerDatum?] at h
      cases minus with
      | true =>
        simp only [Option.ite_none_right_eq_some, Option.some.injEq] at h
        exact h.2 ▸ .negative means
      | false =>
        simp only [Option.ite_none_right_eq_some, Option.some.injEq] at h
        exact h.2 ▸ .natural means
    | null => rw [means] at h; cases h; exact .null means
    | boolean => rw [means] at h; cases h; exact .boolean means
    | decimal => rw [means] at h; cases h; exact .decimal means
    | text => rw [means] at h; cases h; exact .text means
  · rw [if_pos (bne_iff_ne.mpr plain)] at h
    cases h
    exact .quoted plain

/-- A plain scalar that is a truth value is a word for it. -/
theorem truthWord?_of_meaning {text : String} {b : Bool} (means : meaning text = .boolean b) :
    truthWord? text = some b := by
  simp only [meaning] at means
  split at means
  · cases means
  · split at means
    · next found => cases means; exact found
    · split at means
      · cases means
      · split at means
        · cases means
        · split at means <;> cases means

/-- A plain scalar that is a text is neither empty nor a word for null. -/
theorem not_null_of_meaning {text : String} (means : meaning text = .text) :
    (text.isEmpty || isNullWord text) = false := by
  cases null : text.isEmpty || isNullWord text with
  | false => rfl
  | true =>
    simp only [meaning, null, if_true] at means
    cases means

/-! ## Trees -/

theorem mapM_eq_some_iff_forall₂ {α β : Type} {f : α → Option β} {as : List α} {bs : List β} :
    as.mapM f = some bs ↔ List.Forall₂ (fun a b => f a = some b) as bs := by
  induction as generalizing bs with
  | nil => simp [eq_comm]
  | cons a as ih =>
    rw [List.forall₂_cons_left_iff]
    simp only [List.mapM_cons, Option.bind_eq_bind, Option.bind_eq_some_iff, Option.pure_def,
      Option.some.injEq, ih]
    constructor
    · rintro ⟨b, first, bs, rest, rfl⟩
      exact ⟨b, bs, first, rest, rfl⟩
    · rintro ⟨b, bs, first, rest, rfl⟩
      exact ⟨b, first, bs, rest, rfl⟩

namespace Node

/-- The node shows the data, without tags, anchors and aliases. -/
def Shows (depth : Nat) (node : Node) (d : Datum) : Prop := node.plainDatum? depth = some d

/-- The entry of a mapping shows the entry of a table. -/
def ShowsEntry (depth : Nat) (entry : Node × Node) (row : Key × Datum) : Prop :=
  ∃ key, entry.1.Shows depth key ∧ row.1 = keyOf key ∧ entry.2.Shows depth row.2

/-- What a node looks like that shows data. -/
inductive Looks : Nat → Node → Datum → Prop
  | scalar {depth : Nat} {style : Style} {text : String} {d : Datum}
    (shows : ScalarShows style text d) : Looks depth (.scalar ⟨none, none⟩ style text) d
  | sequence {depth : Nat} {items : List Node} {ds : List Datum}
    (shown : List.Forall₂ (Shows depth) items ds) :
    Looks (depth + 1) (.sequence ⟨none, none⟩ items) (.list ds)
  | mapping {depth : Nat} {entries : List (Node × Node)} {rows : List (Key × Datum)}
    (shown : List.Forall₂ (ShowsEntry depth) entries rows) :
    Looks (depth + 1) (.mapping ⟨none, none⟩ entries) (.table rows)

theorem Shows.looks {depth : Nat} {node : Node} {d : Datum} (shown : node.Shows depth d) :
    Looks depth node d := by
  unfold Shows at shown
  unfold plainDatum? at shown
  split at shown
  · exact .scalar (scalarShows_of_eq_some shown)
  · obtain ⟨ds, all, made⟩ := Option.bind_eq_some_iff.mp shown
    cases made
    exact .sequence (mapM_eq_some_iff_forall₂.mp all)
  · obtain ⟨rows, all, made⟩ := Option.bind_eq_some_iff.mp shown
    cases made
    refine .mapping ((mapM_eq_some_iff_forall₂.mp all).imp ?_)
    rintro ⟨key, value⟩ row shown
    obtain ⟨dk, hk, shown⟩ := Option.bind_eq_some_iff.mp shown
    obtain ⟨dv, hv, made⟩ := Option.bind_eq_some_iff.mp shown
    cases made
    exact ⟨dk, hk, rfl, hv⟩
  · cases shown

end Node

/-- Only a text is the name of a field. -/
theorem eq_text_of_keyOf {d : Datum} {name : String} (named : keyOf d = .name name) :
    d = .text name := by
  cases d <;> cases named
  rfl

/-! ## Parts of a known kind -/

namespace Site

/-- The node of a site shows data. -/
def Shows (s : Site) (d : Datum) : Prop := s.node.Shows s.depth d

variable (targets : Targets)

theorem finds_text (t : String) : Form.Finds Shows (text targets) (.text t) t := by
  rintro ⟨node, depth⟩ shown
  obtain @⟨_, style, _, _, scalar⟩ | _ | _ := shown.looks
  cases scalar <;> rfl

theorem finds_flag (b : Bool) : Form.Finds Shows (flag targets) (.boolean b) b := by
  rintro ⟨node, depth⟩ shown
  obtain @⟨_, style, _, _, scalar⟩ | _ | _ := shown.looks
  cases scalar with
  | boolean means =>
    have word := congrArg (Following.require (β := Bool)) (truthWord?_of_meaning means)
    exact word

theorem finds_choice {words : List String} {word : String} {k : Nat}
    (position : words.idxOf? word = some k) :
    Form.Finds Shows (choice targets words) (.text word) k := by
  rintro ⟨node, depth⟩ shown
  obtain @⟨_, style, _, _, scalar⟩ | _ | _ := shown.looks
  have found : Following.require (words.idxOf? word) = (pure k : Following Nat) := by
    rw [position]
    rfl
  cases scalar <;> exact found

/-- A text is not null. -/
theorem finds_optional {t : String} {s : Site} (shown : s.Shows (.text t)) :
    ∃ s', optional targets s = pure (some s') ∧ s'.Shows (.text t) := by
  obtain ⟨node, depth⟩ := s
  refine ⟨⟨node, depth⟩, ?_, shown⟩
  obtain @⟨_, style, _, _, scalar⟩ | _ | _ := shown.looks
  cases scalar with
  | quoted quoted =>
    cases style with
    | plain => exact absurd rfl quoted
    | _ => rfl
  | text means =>
    change (if t.isEmpty || isNullWord t then pure none else pure (some _)) = (pure (some _) :
      Following (Option Site))
    rw [not_null_of_meaning means]
    rfl

theorem finds_items {ds : List Datum} {s : Site} (shown : s.Shows (.list ds)) :
    ∃ items, Site.items targets s = pure items ∧ List.Forall₂ Shows items ds := by
  obtain ⟨node, depth⟩ := s
  obtain @⟨_, style, _, _, scalar⟩ | @⟨depth, items, _, shown⟩ | _ := shown.looks
  · cases scalar
  · exact ⟨items.map (⟨·, depth⟩), rfl, List.forall₂_map_left_iff.mpr shown⟩

/-- The entries of a mapping go into the places of their fields. The fields before are found
already, those that are left are not. -/
theorem readEntries_of_found {β : Type} {before parts : List (String × (Site → Following β))}
    {found bs : List (Option β)} {fields : List (String × Option Datum)}
    (size : before.length = found.length) (left : Form.Found Shows parts fields bs)
    (distinct : (before.map (·.1) ++ fields.map (·.1)).Nodup) {depth : Nat}
    {entries : List (Node × Node)}
    (shown : List.Forall₂ (Node.ShowsEntry depth) entries (Datum.rows fields)) :
    readEntries targets (before ++ parts) depth entries (found ++ parts.map fun _ => none) =
      pure (found ++ bs) := by
  induction left generalizing before found entries with
  | nil =>
    cases shown
    rfl
  | @missing name read parts fields bs rest ih =>
    have onward := @ih (before ++ [(name, read)]) (found ++ [none]) (by simp [size])
      (by simpa using distinct) _ shown
    simpa using onward
  | @present name read d b parts fields bs finds rest ih =>
    have apart : name ∉ before.map (·.1) := fun member =>
      (List.nodup_append.mp distinct).2.2 name member name List.mem_cons_self rfl
    obtain ⟨⟨key, value⟩, entries, ⟨dk, keyShown, named, valueShown⟩, others, rfl⟩ :=
      List.forall₂_cons_right_iff.mp shown
    obtain rfl := eq_text_of_keyOf named.symm
    have onward := @ih (before ++ [(name, read)]) (found ++ [some b]) (by simp [size])
      (by simpa using distinct) _ others
    have place : (before ++ (name, read) :: parts).findIdx? (fun part => part.1 == name) =
        some before.length := by
      have absent : before.findIdx? (fun part => part.1 == name) = none := by
        refine List.findIdx?_eq_none_iff.mpr fun part member => ?_
        rw [beq_eq_false_iff_ne]
        rintro rfl
        exact apart (List.mem_map_of_mem member)
      rw [List.findIdx?_append, absent]
      simp [List.findIdx?_cons]
    have part : (before ++ (name, read) :: parts)[before.length]? = some (name, read) := by simp
    have empty : (found ++ ((name, read) :: parts).map fun _ => (none : Option β))[before.length]? =
        some none := by
      rw [size]
      simp
    have filled : (found ++ ((name, read) :: parts).map fun _ => (none : Option β)).set
        before.length (some b) = (found ++ [some b]) ++ parts.map fun _ => none := by
      rw [size]
      simp
    rw [readEntries, finds_text targets name ⟨key, depth⟩ keyShown]
    simp only [pure_bind, place, part, empty, finds ⟨value, depth⟩ valueShown, filled]
    simpa using onward

theorem finds_fields {β : Type} {parts : List (String × (Site → Following β))}
    {fields : List (String × Option Datum)} {bs : List (Option β)}
    (found : Form.Found Shows parts fields bs) (distinct : (fields.map (·.1)).Nodup) :
    Form.Finds Shows (Site.fields targets parts) (.table (Datum.rows fields)) bs := by
  rintro ⟨node, depth⟩ shown
  obtain @⟨_, style, _, _, scalar⟩ | _ | @⟨depth, entries, _, shown⟩ := shown.looks
  · cases scalar
  · exact @readEntries_of_found targets β [] parts [] bs fields rfl found distinct depth entries
      shown

/-! ## Nodes as data -/

theorem mapM_eq_pure {m : Type → Type} [Monad m] [LawfulMonad m] {α β : Type}
    {R : α → β → Prop} {f : α → m β} (finds : ∀ a b, R a b → f a = pure b) {as : List α}
    {bs : List β} (related : List.Forall₂ R as bs) : as.mapM f = pure bs := by
  induction related with
  | nil => rfl
  | cons first _ ih => simp only [List.mapM_cons, finds _ _ first, ih, pure_bind]

theorem datumAt_scalar {style : Style} {text : String} {d : Datum}
    (shown : scalarDatum? {} style text = some d) (depth : Nat) :
    datumAt targets depth (.scalar ⟨none, none⟩ style text) = pure d := by
  have read : datumAt targets depth (.scalar ⟨none, none⟩ style text) =
      Following.require (scalarDatum? {} style text) := by
    cases depth <;> rfl
  rw [read, shown]
  rfl

/-- What shows data is read as these data. -/
theorem datumAt_of_shows {depth : Nat} {node : Node} {d : Datum} (shown : node.Shows depth d) :
    datumAt targets depth node = pure d := by
  induction depth generalizing node d with
  | zero =>
    cases shown.looks
    exact datumAt_scalar targets shown 0
  | succ depth ih =>
    obtain ⟨_⟩ | @⟨_, items, ds, inside⟩ | @⟨_, entries, rows, inside⟩ := shown.looks
    · exact datumAt_scalar targets shown (depth + 1)
    · rw [datumAt]
      change (do return Datum.list (← items.mapM (datumAt targets depth))) = _
      have all : items.mapM (datumAt targets depth) = pure ds :=
        mapM_eq_pure (fun _ _ shown => ih shown) inside
      rw [all, pure_bind]
    · rw [datumAt]
      change (do return Datum.table (← entries.mapM fun (key, value) => do
        let key ← datumAt targets depth key
        let value ← datumAt targets depth value
        return (keyOf key, value))) = _
      rw [mapM_eq_pure ?_ inside, pure_bind]
      rintro ⟨key, value⟩ ⟨key', d⟩ ⟨dk, keyShown, rfl, valueShown⟩
      simp only [ih keyShown, ih valueShown, pure_bind]

/-- Entries under other names than the tag are read as data. -/
theorem readTagged_of_shows {name : String} {words : List String} {depth : Nat} {seen : Bool}
    {entries : List (Node × Node)} {rows : List (Key × Datum)}
    (shown : List.Forall₂ (Node.ShowsEntry depth) entries rows)
    (others : ∀ row ∈ rows, row.1 ≠ .name name) :
    readTagged targets name words depth seen entries = pure rows := by
  induction shown with
  | nil => rfl
  | @cons entry row entries rows first _ ih =>
    obtain ⟨key, value⟩ := entry
    obtain ⟨key', d⟩ := row
    obtain ⟨dk, keyShown, rfl, valueShown⟩ := first
    obtain ⟨here, others⟩ := List.forall_mem_cons.mp others
    have other : (keyOf dk == .name name) = false := beq_eq_false_iff_ne.mpr here
    rw [readTagged, datumAt_of_shows targets keyShown]
    simp only [pure_bind, other, Bool.false_eq_true, if_false]
    rw [datumAt_of_shows targets valueShown, ih others]
    simp only [pure_bind]

/-- A table with its tag in front, which is one of the words, is read as it is. -/
theorem finds_taggedDatum {name word : String} {words : List String} (known : word ∈ words)
    {fields : List (String × Option Datum)} (other : name ∉ fields.map (·.1)) :
    Form.Finds Shows (taggedDatum targets name words)
      (.table ((.name name, .text word) :: Datum.rows fields))
      (.table ((.name name, .text word) :: Datum.rows fields)) := by
  rintro ⟨node, depth⟩ shown
  obtain @⟨_, style, text, _, scalar⟩ | _ | @⟨depth, entries, _, shown⟩ := shown.looks
  · cases scalar
  · obtain ⟨⟨key, value⟩, entries, ⟨dk, keyShown, named, valueShown⟩, others, rfl⟩ :=
      List.forall₂_cons_right_iff.mp shown
    obtain rfl := eq_text_of_keyOf named.symm
    have rest : readTagged targets name words depth true entries = pure (Datum.rows fields) := by
      refine readTagged_of_shows targets others fun row member same => ?_
      obtain ⟨name', inside, key⟩ := Datum.exists_of_mem_rows member
      rw [key] at same
      cases same
      exact other inside
    have listed : words.contains word = true := List.contains_iff_mem.mpr known
    change (do
      let rows ← readTagged targets name words depth false ((key, value) :: entries)
      return Datum.table rows) = _
    rw [readTagged, datumAt_of_shows targets keyShown]
    simp only [pure_bind, keyOf, beq_self_eq_true, if_true, Bool.false_eq_true, if_false]
    rw [finds_text targets word ⟨value, depth⟩ valueShown]
    simp only [pure_bind, listed, Bool.not_true, Bool.false_eq_true, if_false, rest]

/-- The parts of nodes show what they stand for. -/
theorem form_lawful : (form targets).Lawful Shows where
  text := finds_text targets
  flag := finds_flag targets
  optional _ _ := finds_optional targets
  items _ _ := finds_items targets
  choice _ _ _ := finds_choice targets
  fields := finds_fields targets
  tagged known other := finds_taggedDatum targets known other

end Site

end Remap.Yaml
