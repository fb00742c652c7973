import Remap.Number.Digits

/-!
# Integers of the value model

Whole numbers between `-2^63` and `2^63 - 1`. The range is part of the type; arithmetic that
leaves it answers `none`. Main statement: reading the written form of an integer gives the
integer back.
-/

namespace Remap

/-- A whole number that fits in sixty-four bits with sign. -/
structure Integer where
  val : Int
  minimum_le : -9223372036854775808 ≤ val
  le_maximum : val ≤ 9223372036854775807

namespace Integer

instance : DecidableEq Integer := fun a b =>
  if h : a.val = b.val then .isTrue (by cases a; cases b; cases h; rfl)
  else .isFalse fun e => h (e ▸ rfl)

instance : Inhabited Integer := ⟨⟨0, by decide, by decide⟩⟩

@[ext] theorem ext {a b : Integer} (h : a.val = b.val) : a = b := by
  cases a; cases b; cases h; rfl

/-- The integer with a given value, if the range holds it. -/
def ofInt? (n : Int) : Option Integer :=
  if h : -9223372036854775808 ≤ n ∧ n ≤ 9223372036854775807 then some ⟨n, h.1, h.2⟩ else none

theorem ofInt?_val (a : Integer) : ofInt? a.val = some a := by
  unfold ofInt?
  rw [dif_pos ⟨a.minimum_le, a.le_maximum⟩]

theorem ofInt?_eq_some_iff {n : Int} {a : Integer} : ofInt? n = some a ↔ a.val = n := by
  constructor
  · intro h
    unfold ofInt? at h
    split at h
    · cases h; rfl
    · cases h
  · rintro rfl; exact a.ofInt?_val

/-- Exact negation. -/
def neg? (a : Integer) : Option Integer := ofInt? (-a.val)

/-- Exact sum. -/
def add? (a b : Integer) : Option Integer := ofInt? (a.val + b.val)

/-- Exact difference. -/
def sub? (a b : Integer) : Option Integer := ofInt? (a.val - b.val)

/-- The integer zero. -/
def zero : Integer := ⟨0, by decide, by decide⟩

/-- An integer as text: the digits of its magnitude after a minus sign if it is negative. -/
def text (a : Integer) : String :=
  String.ofList (if a.val < 0 then '-' :: Number.digits a.val.natAbs
    else Number.digits a.val.natAbs)

/-- An integer that counts something is written as the count is. -/
theorem text_of_nonneg {n : Integer} (counts : 0 ≤ n.val) :
    n.text = toString n.val.toNat := by
  rw [text, if_neg (Int.not_lt.mpr counts), Number.digits_eq_toDigits, Nat.toString_eq_repr,
    Nat.repr_eq_ofList_toDigits]
  congr
  omega

/-- Why a text is not an integer. -/
inductive ReadError
  /-- Nothing to read. -/
  | empty
  /-- A character that is not a digit, or a sign alone. -/
  | invalidDigit
  /-- Above the range. -/
  | aboveRange
  /-- Below the range. -/
  | belowRange
  deriving DecidableEq, Repr

/-- The sentence for a reading failure. -/
def ReadError.message : ReadError → String
  | .empty => "cannot parse integer from empty string"
  | .invalidDigit => "invalid digit found in string"
  | .aboveRange => "number too large to fit in target type"
  | .belowRange => "number too small to fit in target type"

/-- The digits of a magnitude, up to the first character that is none. While the digits read so
far stay in range a bad character is what fails; once they leave the range, that is. -/
def readMagnitude (limit : Nat) (outside : ReadError) : Nat → List Char → Except ReadError Nat
  | n, [] => .ok n
  | n, c :: cs =>
    if !c.isDigit then .error .invalidDigit
    else
      let next := 10 * n + Number.digitValue c
      if next ≤ limit then readMagnitude limit outside next cs else .error outside

/-- An optional sign and decimal digits. -/
def read (cs : List Char) : Except ReadError Integer := do
  match cs with
  | [] => throw .empty
  | '-' :: digits =>
    if digits.isEmpty then throw .invalidDigit
    let n ← readMagnitude 9223372036854775808 .belowRange 0 digits
    match ofInt? (-(n : Int)) with
    | some a => pure a
    | none => throw .belowRange
  | '+' :: digits =>
    if digits.isEmpty then throw .invalidDigit
    let n ← readMagnitude 9223372036854775807 .aboveRange 0 digits
    match ofInt? n with
    | some a => pure a
    | none => throw .aboveRange
  | digits =>
    let n ← readMagnitude 9223372036854775807 .aboveRange 0 digits
    match ofInt? n with
    | some a => pure a
    | none => throw .aboveRange

/-- Reading further digits does not make a number smaller. -/
theorem le_foldl_digits (n : Nat) (cs : List Char) :
    n ≤ cs.foldl (fun n c => 10 * n + Number.digitValue c) n := by
  induction cs generalizing n with
  | nil => exact Nat.le_refl n
  | cons c cs ih =>
    rw [List.foldl_cons]
    exact Nat.le_trans (by omega) (ih (10 * n + Number.digitValue c))

/-- Digits of a number within the limit are read as that number. -/
theorem readMagnitude_eq_ok {limit : Nat} {outside : ReadError} {cs : List Char} {n : Nat}
    (hd : ∀ c ∈ cs, c.isDigit = true)
    (hle : cs.foldl (fun n c => 10 * n + Number.digitValue c) n ≤ limit) :
    readMagnitude limit outside n cs =
      .ok (cs.foldl (fun n c => 10 * n + Number.digitValue c) n) := by
  induction cs generalizing n with
  | nil => rfl
  | cons c cs ih =>
    rw [List.foldl_cons] at hle ⊢
    have hnext : 10 * n + Number.digitValue c ≤ limit := Nat.le_trans (le_foldl_digits _ cs) hle
    have hc : c.isDigit = true := hd c List.mem_cons_self
    rw [readMagnitude, hc]
    simp only [Bool.not_true, Bool.false_eq_true, if_false, if_pos hnext]
    exact ih (fun d hmem => hd d (List.mem_cons_of_mem c hmem)) hle

/-- The written digits of a number within the limit are read as that number. -/
theorem readMagnitude_digits {limit : Nat} {outside : ReadError} {n : Nat} (h : n ≤ limit) :
    readMagnitude limit outside 0 (Number.digits n) = .ok n := by
  have hval : (Number.digits n).foldl (fun n c => 10 * n + Number.digitValue c) 0 = n :=
    Number.ofDigits_digits n
  rw [readMagnitude_eq_ok (fun c => Number.isDigit_of_mem_digits) (by rw [hval]; exact h), hval]

/-- Digits without a sign are read as a magnitude. -/
theorem read_of_isDigit {c : Char} {cs : List Char} (h : c.isDigit = true) :
    read (c :: cs) =
      (readMagnitude 9223372036854775807 .aboveRange 0 (c :: cs)).bind fun n =>
        match ofInt? n with
        | some a => .ok a
        | none => .error .aboveRange := by
  unfold read
  split
  · next heq => cases heq
  · next heq => cases heq; exact absurd h (by decide)
  · next heq => cases heq; exact absurd h (by decide)
  · rfl

/-- Reading the written form of an integer gives the integer back. -/
theorem read_text (a : Integer) : read a.text.toList = .ok a := by
  have hlow := a.minimum_le
  have hhigh := a.le_maximum
  unfold text
  rw [String.toList_ofList]
  split
  · next hneg =>
    have hempty : (Number.digits a.val.natAbs).isEmpty = false := by
      rw [List.isEmpty_eq_false_iff]
      exact Number.digits_ne_nil _
    have hval : ofInt? (-(a.val.natAbs : Int)) = some a := by
      rw [ofInt?_eq_some_iff]; omega
    have hmag : readMagnitude 9223372036854775808 .belowRange 0 (Number.digits a.val.natAbs) =
        .ok a.val.natAbs := readMagnitude_digits (by omega)
    simp only [read, hempty, hmag, hval, bind, Except.bind, pure, Except.pure,
      Bool.false_eq_true, if_false]
  · next hpos =>
    have hval : ofInt? (a.val.natAbs : Int) = some a := by
      rw [ofInt?_eq_some_iff]; omega
    have hmag : readMagnitude 9223372036854775807 .aboveRange 0 (Number.digits a.val.natAbs) =
        .ok a.val.natAbs := readMagnitude_digits (by omega)
    cases hdigits : Number.digits a.val.natAbs with
    | nil => exact absurd hdigits (Number.digits_ne_nil _)
    | cons c cs =>
      have hc : c.isDigit = true :=
        Number.isDigit_of_mem_digits (n := a.val.natAbs) (hdigits ▸ List.mem_cons_self)
      rw [read_of_isDigit hc, ← hdigits, hmag]
      simp only [Except.bind, hval]

end Integer

end Remap
