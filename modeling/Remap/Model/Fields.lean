/-!
# Named slots in insertion order

A list of name and content pairs read as an ordered map: looking a name up takes its first
entry, storing replaces that entry in place or appends. Main statements: what a name holds after
a store, and that storing keeps names distinct and in their order.
-/

namespace Remap.Fields

variable {α : Type}

/-- The content stored under a name. -/
def get? : List (String × α) → String → Option α
  | [], _ => none
  | (n, a) :: rest, name => if n = name then some a else get? rest name

/-- The list with a content stored under a name: in place when the name is there, else last. -/
def put : List (String × α) → String → α → List (String × α)
  | [], name, a => [(name, a)]
  | (n, b) :: rest, name, a => if n = name then (n, a) :: rest else (n, b) :: put rest name a

/-- The list without the first entry of a name. -/
def erase : List (String × α) → String → List (String × α)
  | [], _ => []
  | (n, a) :: rest, name => if n = name then rest else (n, a) :: erase rest name

/-- The names in order. -/
def names (fields : List (String × α)) : List String :=
  fields.map (·.1)

/-- No name occurs twice. -/
def Distinct (fields : List (String × α)) : Prop :=
  (names fields).Nodup

instance (fields : List (String × α)) : Decidable (Distinct fields) :=
  inferInstanceAs (Decidable (names fields).Nodup)

@[simp] theorem get?_nil (name : String) : get? ([] : List (String × α)) name = none := rfl

@[simp] theorem names_nil : names ([] : List (String × α)) = [] := rfl

@[simp] theorem names_cons (p : String × α) (rest : List (String × α)) :
    names (p :: rest) = p.1 :: names rest := rfl

@[simp] theorem names_append (fields others : List (String × α)) :
    names (fields ++ others) = names fields ++ names others :=
  List.map_append

theorem names_map {β : Type} (content : α → β) (fields : List (String × α)) :
    names (fields.map fun field => (field.1, content field.2)) = names fields := by
  unfold names
  rw [List.map_map]
  rfl

/-- A name holds what was just stored under it. -/
theorem get?_put_self (fields : List (String × α)) (name : String) (a : α) :
    get? (put fields name a) name = some a := by
  fun_induction put fields name a with
  | case1 => simp [get?]
  | case2 => simp [get?]
  | case3 n b rest name a h ih => simp [get?, h, ih]

/-- Other names hold what they held before. -/
theorem get?_put_of_ne (fields : List (String × α)) {name other : String} (a : α)
    (h : other ≠ name) : get? (put fields name a) other = get? fields other := by
  fun_induction put fields name a with
  | case1 name a => simp [get?, Ne.symm h]
  | case2 n b rest a => simp [get?, Ne.symm h]
  | case3 n b rest name a hn ih => simp [get?, ih h]

theorem get?_eq_none_iff {fields : List (String × α)} {name : String} :
    get? fields name = none ↔ name ∉ names fields := by
  induction fields with
  | nil => simp
  | cons p rest ih =>
    obtain ⟨n, a⟩ := p
    by_cases h : n = name
    · simp [get?, h]
    · simp [get?, h, ih, Ne.symm h]

/-- Storing what a name holds already changes nothing. -/
theorem put_of_get?_eq_some {fields : List (String × α)} {name : String} {a : α}
    (h : get? fields name = some a) : put fields name a = fields := by
  fun_induction put fields name a with
  | case1 => simp at h
  | case2 n b rest a =>
    simp only [get?, if_true, Option.some.injEq] at h
    rw [h]
  | case3 n b rest name a hn ih =>
    simp only [get?, hn, if_false] at h
    rw [ih h]

/-- The second of two contents that are stored under one name stays. -/
theorem put_put (fields : List (String × α)) (name : String) (a b : α) :
    put (put fields name a) name b = put fields name b := by
  fun_induction put fields name a with
  | case1 => simp [put]
  | case2 n c rest a => simp [put]
  | case3 n c rest name a different ih => simp [put, different, ih]

/-- Storing keeps the order of names and appends a new one. -/
theorem names_put (fields : List (String × α)) (name : String) (a : α) :
    names (put fields name a) =
      if name ∈ names fields then names fields else names fields ++ [name] := by
  fun_induction put fields name a with
  | case1 => simp
  | case2 n b rest a => simp
  | case3 n b rest name a h ih =>
    simp only [names_cons, ih, List.mem_cons]
    by_cases hm : name ∈ names rest <;> simp [hm, Ne.symm h]

/-- Storing keeps names distinct. -/
theorem Distinct.put {fields : List (String × α)} (h : Distinct fields) (name : String) (a : α) :
    Distinct (put fields name a) := by
  unfold Distinct at *
  rw [names_put]
  split
  · exact h
  · next hm =>
    rw [List.nodup_append]
    exact ⟨h, by simp, fun x hx y hy => by simp at hy; subst hy; exact fun e => hm (e ▸ hx)⟩

/-- Storing under a new name appends. -/
theorem put_of_not_mem {fields : List (String × α)} {name : String} (new : name ∉ names fields)
    (a : α) : put fields name a = fields ++ [(name, a)] := by
  induction fields with
  | nil => rfl
  | cons field rest ih =>
    obtain ⟨n, b⟩ := field
    obtain ⟨different, later⟩ := not_or.mp (mt List.mem_cons.mpr new)
    rw [put, if_neg (Ne.symm different), ih later]
    rfl

/-- After a store a field is the stored one or one from before. -/
theorem mem_put {fields : List (String × α)} {name : String} {a : α} {field : String × α}
    (member : field ∈ put fields name a) : field = (name, a) ∨ field ∈ fields := by
  fun_induction put fields name a with
  | case1 => exact .inl (List.mem_singleton.mp member)
  | case2 n b rest a =>
    rcases List.mem_cons.mp member with here | later
    · exact .inl here
    · exact .inr (List.mem_cons_of_mem _ later)
  | case3 n b rest name a different ih =>
    rcases List.mem_cons.mp member with here | later
    · exact .inr (List.mem_cons.mpr (.inl here))
    · exact (ih later).imp_right (List.mem_cons_of_mem _)

/-- What a name holds stands in a field. -/
theorem mem_of_get? {fields : List (String × α)} {name : String} {a : α}
    (found : get? fields name = some a) : (name, a) ∈ fields := by
  induction fields with
  | nil => cases found
  | cons field rest ih =>
    obtain ⟨n, b⟩ := field
    by_cases here : n = name
    · rw [get?, if_pos here] at found
      cases found
      rw [here]
      exact List.mem_cons_self
    · rw [get?, if_neg here] at found
      exact List.mem_cons_of_mem _ (ih found)

/-- Taking a field away leaves the others in their order. -/
theorem erase_sublist (fields : List (String × α)) (name : String) :
    (erase fields name).Sublist fields := by
  induction fields with
  | nil => exact .slnil
  | cons field rest ih =>
    obtain ⟨n, b⟩ := field
    by_cases here : n = name
    · rw [erase, if_pos here]
      exact (List.Sublist.refl rest).cons (n, b)
    · rw [erase, if_neg here]
      exact ih.cons_cons (n, b)

/-- Distinct names with their contents are all there is. -/
theorem Distinct.map_contents {fields : List (String × α)} (distinct : Distinct fields)
    (missing : α) :
    (names fields).map (fun name => (name, (get? fields name).getD missing)) = fields := by
  induction fields with
  | nil => rfl
  | cons field rest ih =>
    obtain ⟨n, a⟩ := field
    obtain ⟨once, distinct⟩ := List.nodup_cons.mp distinct
    have head : get? ((n, a) :: rest) n = some a := by simp [get?]
    have tail : ∀ name ∈ names rest, (name, (get? ((n, a) :: rest) name).getD missing) =
        (name, (get? rest name).getD missing) := by
      intro name member
      have different : n ≠ name := by
        rintro rfl
        exact once member
      rw [get?, if_neg different]
    rw [names_cons, List.map_cons, head, List.map_congr_left tail, ih distinct]
    rfl

end Remap.Fields
