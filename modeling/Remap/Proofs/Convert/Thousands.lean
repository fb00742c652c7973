import Remap.Convert.Transform

/-!
# Groups of three digits

A separator is put where the number of digits that are left is a multiple of three. Read from the
right, that cuts the digits into groups of three; only the first group may be shorter.

Main statement: a number that is written with a separator has its sign and its places as before, and
in between its groups of digits with the separator between any two.
-/

namespace Remap.Transform

/-- The digits in groups of three, counted from the right. -/
def thousands : List Char → List (List Char)
  | [] => []
  | c :: cs =>
    if cs.length % 3 = 0 then [c] :: thousands cs
    else
      match thousands cs with
      | [] => [[c]]
      | first :: others => (c :: first) :: others

/-- The groups hold the digits in order, each has three of them, and the first has at least one. -/
structure Groups (digits first : List Char) (others : List (List Char)) : Prop where
  digits_eq : digits = first ++ others.flatten
  present : 1 ≤ first.length
  short : first.length ≤ 3
  full : ∀ group ∈ others, group.length = 3

namespace Groups

variable {digits first : List Char} {others : List (List Char)}

theorem singleton (c : Char) : Groups [c] [c] [] where
  digits_eq := rfl
  present := Nat.le_refl 1
  short := Nat.le_add_left 1 2
  full := nofun

theorem length_flatten (full : ∀ group ∈ others, group.length = 3) :
    others.flatten.length = 3 * others.length := by
  induction others with
  | nil => rfl
  | cons group others ih =>
    rw [List.forall_mem_cons] at full
    rw [List.flatten_cons, List.length_append, full.1, ih full.2, List.length_cons]
    omega

/-- The first group is full exactly if the number of digits is a multiple of three. -/
theorem length_mod (groups : Groups digits first others) :
    digits.length % 3 = first.length % 3 := by
  rw [groups.digits_eq, List.length_append, length_flatten groups.full]
  omega

/-- A digit before full groups starts a group. -/
theorem start (groups : Groups digits first others) (c : Char) (whole : digits.length % 3 = 0) :
    Groups (c :: digits) [c] (first :: others) where
  digits_eq := by rw [groups.digits_eq]; rfl
  present := Nat.le_refl 1
  short := Nat.le_add_left 1 2
  full := by
    have first_mod := groups.length_mod
    have present := groups.present
    have short := groups.short
    exact List.forall_mem_cons.mpr ⟨by omega, groups.full⟩

/-- A digit before a group that is not full joins it. -/
theorem lengthen (groups : Groups digits first others) (c : Char) (open' : digits.length % 3 ≠ 0) :
    Groups (c :: digits) (c :: first) others where
  digits_eq := by rw [groups.digits_eq]; rfl
  present := Nat.succ_pos _
  short := by
    have first_mod := groups.length_mod
    have short := groups.short
    rw [List.length_cons]
    omega
  full := groups.full

end Groups

theorem groups_thousands {digits : List Char} (present : digits ≠ []) :
    ∃ first others, thousands digits = first :: others ∧ Groups digits first others := by
  induction digits with
  | nil => exact absurd rfl present
  | cons c cs ih =>
    cases cs with
    | nil => exact ⟨[c], [], rfl, .singleton c⟩
    | cons d rest =>
      obtain ⟨first, others, same, groups⟩ := ih (List.cons_ne_nil d rest)
      rw [thousands]
      by_cases whole : (d :: rest).length % 3 = 0
      · rw [if_pos whole, same]
        exact ⟨_, _, rfl, groups.start c whole⟩
      · rw [if_neg whole, same]
        exact ⟨_, _, rfl, groups.lengthen c whole⟩

/-- The digits with separators are the groups with a separator between any two. -/
theorem groupThousands_eq (separator digits : List Char) :
    groupThousands separator digits = separator.intercalate (thousands digits) := by
  induction digits with
  | nil => rfl
  | cons c cs ih =>
    cases cs with
    | nil => simp [groupThousands, thousands]
    | cons d rest =>
      obtain ⟨first, others, same, -⟩ := groups_thousands (List.cons_ne_nil d rest)
      rw [groupThousands, thousands, ih, same]
      by_cases whole : (d :: rest).length % 3 = 0
      · simp only [whole, beq_self_eq_true, if_true, List.intercalate_cons_cons, List.cons_append,
          List.nil_append]
      · simp only [whole, beq_eq_false_iff_ne.mpr whole, Bool.false_eq_true, if_false]
        cases others with
        | nil => simp only [List.intercalate_singleton]
        | cons group others => simp only [List.intercalate_cons_cons, List.cons_append]

/-! ## Written numbers -/

/-- The number as it is written: a minus or none, digits, and places behind a point or none. -/
structure Numeral where
  negative : Bool
  whole : List Char
  places : Option (List Char)
  present : whole ≠ []
  isDigit_of_mem_whole : ∀ c ∈ whole, c.isDigit = true
  isDigit_of_mem_places : ∀ ds ∈ places, ∀ c ∈ ds, c.isDigit = true

namespace Numeral

/-- The sign in front of the digits. -/
def sign (n : Numeral) : List Char := if n.negative then ['-'] else []

/-- What is written behind the digits: nothing, or the point and the places. -/
def fraction (n : Numeral) : List Char :=
  match n.places with
  | none => []
  | some ds => '.' :: ds

/-- The number with its digits written in another way. -/
def textWith (n : Numeral) (whole : List Char) : String :=
  String.ofList (n.sign ++ whole ++ n.fraction)

/-- The number as text. -/
def text (n : Numeral) : String := n.textWith n.whole

theorem ne_point_of_mem_whole (n : Numeral) : ∀ c ∈ n.whole, (c != '.') = true := by
  intro c member
  have digit := n.isDigit_of_mem_whole c member
  rw [bne_iff_ne]
  rintro rfl
  exact absurd digit (by decide)

/-- The digits end at the point. -/
theorem takeWhile_whole (n : Numeral) :
    (n.whole ++ n.fraction).takeWhile (· != '.') = n.whole := by
  rw [List.takeWhile_append_of_pos n.ne_point_of_mem_whole, fraction]
  cases n.places <;> simp

theorem dropWhile_whole (n : Numeral) :
    (n.whole ++ n.fraction).dropWhile (· != '.') = n.fraction := by
  rw [List.dropWhile_append_of_pos n.ne_point_of_mem_whole, fraction]
  cases n.places <;> simp

/-- Grouping looks at the digits alone. -/
theorem groupNumber_text (separator : String) (n : Numeral) :
    groupNumber separator n.text = n.textWith (groupThousands separator.toList n.whole) := by
  have unsigned : ∀ digits, (n.whole ++ n.fraction) ≠ '-' :: digits := by
    intro digits same
    cases whole : n.whole with
    | nil => exact n.present whole
    | cons c cs =>
      rw [whole, List.cons_append, List.cons.injEq] at same
      have digit := n.isDigit_of_mem_whole c (whole ▸ List.mem_cons_self)
      exact absurd (same.1 ▸ digit) (by decide)
  rw [groupNumber, text, textWith, textWith, String.toList_ofList, sign]
  cases n.negative with
  | true =>
    simp only [if_true, List.cons_append, List.nil_append, n.takeWhile_whole, n.dropWhile_whole]
  | false =>
    rw [if_neg Bool.false_ne_true, List.nil_append, List.nil_append]
    split
    next signed =>
      split at signed
      · next minus => exact absurd minus (unsigned _)
      · cases signed
        rw [n.takeWhile_whole, n.dropWhile_whole]
        rfl

/-- A number is grouped by thousands. Whatever the separator is, the sign and the places are those
of the number, and between them stand its digits in groups with the separator between any two:
every group but the first has three digits, and the first has one to three. -/
theorem groupNumber_eq_groups (separator : String) (n : Numeral) :
    ∃ first others, Groups n.whole first others ∧
      groupNumber separator n.text =
        n.textWith (separator.toList.intercalate (first :: others)) := by
  obtain ⟨first, others, same, groups⟩ := groups_thousands n.present
  refine ⟨first, others, groups, ?_⟩
  rw [groupNumber_text, groupThousands_eq, same]

/-- A number below zero with more than a million and four places. -/
def debt : Numeral where
  negative := true
  whole := ['1', '2', '3', '4', '5', '6', '7']
  places := some ['8', '9', '0', '1']
  present := by decide
  isDigit_of_mem_whole := List.all_eq_true.mp rfl
  isDigit_of_mem_places := by
    rintro _ ⟨⟩
    exact List.all_eq_true.mp rfl

/-- The minus and the places of a number stay as they are, its digits come in three groups. -/
theorem groupNumber_debt :
    debt.text = "-1234567.8901" ∧ groupNumber "'" debt.text = "-1'234'567.8901" ∧
      ∃ first others, Groups debt.whole first others ∧
        groupNumber "'" debt.text = debt.textWith ("'".toList.intercalate (first :: others)) :=
  ⟨by decide, by decide, groupNumber_eq_groups "'" debt⟩

end Numeral

end Remap.Transform
