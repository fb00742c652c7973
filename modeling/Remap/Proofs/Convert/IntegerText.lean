import Mathlib.Data.List.TakeWhile
import Remap.Proofs.Convert.Foresight
import Remap.Proofs.Expression.Numerals

/-!
# Integers as texts

An integer is written as its decimal digits, behind a minus if it is negative. A text is read more
freely: blanks around it do not count, a plus may stand in front, and so may zeros.

Main statement: of an integer that is converted to a text and back nothing is lost, and the texts
that convert to an integer are those that spell one, the blank texts, which convert to null, and no
others.
-/

namespace Remap

namespace Text

/-- The text holds nothing but blanks. -/
def Blank (s : String) : Prop := ∀ c ∈ s.toList, isBlank c = true

instance : DecidablePred Blank := fun s =>
  decidable_of_iff (s.toList.all isBlank = true) List.all_eq_true

/-- Nothing is left of a text exactly if it is blank. -/
theorem trimChars_eq_nil_iff {cs : List Char} :
    trimChars cs = [] ↔ ∀ c ∈ cs, isBlank c = true := by
  rw [trimChars, List.reverse_eq_nil_iff, List.dropWhile_eq_nil_iff]
  constructor
  · intro blank c member
    rw [← List.takeWhile_append_dropWhile (p := isBlank) (l := cs)] at member
    rcases List.mem_append.mp member with before | after
    · exact List.mem_takeWhile_imp before
    · exact blank c (List.mem_reverse.mpr after)
  · intro blank c member
    exact blank c ((List.dropWhile_sublist isBlank).mem (List.mem_reverse.mp member))

end Text

namespace Integer

/-- The text of an integer is its decimal numeral. -/
theorem text_eq_toString (n : Integer) : n.text = toString n.val := by
  rw [text, Number.digits_eq_toDigits]
  cases h : n.val with
  | ofNat m =>
    rw [if_neg (by simp), Int.natAbs_ofNat']
    rw [← Nat.repr_eq_ofList_toDigits]
    rfl
  | negSucc m =>
    rw [if_pos (Int.negSucc_lt_zero m), Int.natAbs_negSucc]
    rw [String.ofList_cons, ← Nat.repr_eq_ofList_toDigits]
    rfl

/-- The characters are digits, with a sign in front or none, and stand for the number. -/
inductive Spells : List Char → Int → Prop
  | unsigned {digits : List Char} {k : Int} (present : digits ≠ [])
    (all : ∀ c ∈ digits, c.isDigit = true) (value : (Number.ofDigits digits : Int) = k) :
    Spells digits k
  | plus {digits : List Char} {k : Int} (present : digits ≠ [])
    (all : ∀ c ∈ digits, c.isDigit = true) (value : (Number.ofDigits digits : Int) = k) :
    Spells ('+' :: digits) k
  | minus {digits : List Char} {k : Int} (present : digits ≠ [])
    (all : ∀ c ∈ digits, c.isDigit = true) (value : -(Number.ofDigits digits : Int) = k) :
    Spells ('-' :: digits) k

/-- A magnitude is read from digits alone, and within the limit. -/
theorem readMagnitude_eq_ok_iff {limit : Nat} {outside : ReadError} {cs : List Char} {n m : Nat}
    (inside : n ≤ limit) :
    readMagnitude limit outside n cs = .ok m ↔ (∀ c ∈ cs, c.isDigit = true) ∧ m ≤ limit ∧
      cs.foldl (fun n c => 10 * n + Number.digitValue c) n = m := by
  constructor
  · intro read
    induction cs generalizing n with
    | nil =>
      cases read
      exact ⟨nofun, inside, rfl⟩
    | cons c cs ih =>
      rw [readMagnitude] at read
      split at read
      · cases read
      · next digit =>
        dsimp only at read
        split at read
        · next next_inside =>
          obtain ⟨digits, within, value⟩ := ih next_inside read
          rw [Bool.not_eq_true, Bool.not_eq_false'] at digit
          exact ⟨List.forall_mem_cons.mpr ⟨digit, digits⟩, within, value⟩
        · cases read
  · rintro ⟨digits, within, rfl⟩
    exact readMagnitude_eq_ok digits within

/-- A magnitude that is read and then taken as an integer. -/
theorem readMagnitude_bind_eq_ok_iff {limit : Nat} {outside e : ReadError} {digits : List Char}
    {signed : Nat → Int} {n : Integer} (fits : ∀ m, signed m = n.val → m ≤ limit) :
    (do
      let m ← readMagnitude limit outside 0 digits
      match ofInt? (signed m) with
      | some a => pure a
      | none => throw e) = .ok n ↔
    (∀ c ∈ digits, c.isDigit = true) ∧ signed (Number.ofDigits digits) = n.val := by
  rw [bind_eq_ok]
  simp only [readMagnitude_eq_ok_iff (Nat.zero_le limit)]
  constructor
  · rintro ⟨m, ⟨all, -, rfl⟩, found⟩
    split at found
    · next a inRange =>
      cases found
      exact ⟨all, (ofInt?_eq_some_iff.mp inRange).symm⟩
    · cases found
  · rintro ⟨all, value⟩
    refine ⟨_, ⟨all, fits _ value, rfl⟩, ?_⟩
    have inRange := ofInt?_eq_some_iff.mpr value.symm
    simp only [inRange]
    rfl

theorem Spells.ne_nil {cs : List Char} {k : Int} (spells : Spells cs k) : cs ≠ [] := by
  cases spells with
  | unsigned present => exact present
  | plus | minus => exact List.cons_ne_nil _ _

theorem spells_plus_iff {digits : List Char} {k : Int} : Spells ('+' :: digits) k ↔
    digits ≠ [] ∧ (∀ c ∈ digits, c.isDigit = true) ∧ (Number.ofDigits digits : Int) = k := by
  constructor
  · intro spells
    cases spells with
    | unsigned present all value => exact absurd (all '+' List.mem_cons_self) (by decide)
    | plus present all value => exact ⟨present, all, value⟩
  · rintro ⟨present, all, value⟩
    exact .plus present all value

theorem spells_minus_iff {digits : List Char} {k : Int} : Spells ('-' :: digits) k ↔
    digits ≠ [] ∧ (∀ c ∈ digits, c.isDigit = true) ∧ -(Number.ofDigits digits : Int) = k := by
  constructor
  · intro spells
    cases spells with
    | unsigned present all value => exact absurd (all '-' List.mem_cons_self) (by decide)
    | minus present all value => exact ⟨present, all, value⟩
  · rintro ⟨present, all, value⟩
    exact .minus present all value

theorem spells_unsigned_iff {cs : List Char} {k : Int} (present : cs ≠ [])
    (plus : ∀ digits, cs ≠ '+' :: digits) (minus : ∀ digits, cs ≠ '-' :: digits) :
    Spells cs k ↔ (∀ c ∈ cs, c.isDigit = true) ∧ (Number.ofDigits cs : Int) = k := by
  constructor
  · intro spells
    cases spells with
    | unsigned present all value => exact ⟨all, value⟩
    | plus => exact absurd rfl (plus _)
    | minus => exact absurd rfl (minus _)
  · rintro ⟨all, value⟩
    exact .unsigned present all value

/-- A text is read as an integer exactly if it spells it. -/
theorem read_eq_ok_iff {cs : List Char} {n : Integer} : read cs = .ok n ↔ Spells cs n.val := by
  have low := n.minimum_le
  have high := n.le_maximum
  have positive : ∀ m : Nat, (m : Int) = n.val → m ≤ 9223372036854775807 := by omega
  have negative : ∀ m : Nat, -(m : Int) = n.val → m ≤ 9223372036854775808 := by omega
  unfold read
  split
  · exact iff_of_false nofun fun spells => spells.ne_nil rfl
  · next digits =>
    rw [spells_minus_iff]
    cases digits with
    | nil => exact iff_of_false nofun fun spells => spells.1 rfl
    | cons c cs =>
      rw [and_iff_right (List.cons_ne_nil c cs)]
      exact readMagnitude_bind_eq_ok_iff negative
  · next digits =>
    rw [spells_plus_iff]
    cases digits with
    | nil => exact iff_of_false nofun fun spells => spells.1 rfl
    | cons c cs =>
      rw [and_iff_right (List.cons_ne_nil c cs)]
      exact readMagnitude_bind_eq_ok_iff positive
  · next present minus plus =>
    rw [spells_unsigned_iff present plus minus]
    exact readMagnitude_bind_eq_ok_iff positive

end Integer

/-! ## The two converters -/

namespace Standard

theorem scalarToText_integer (n : Integer) :
    scalarToText (.integer n) = .ok (.string (toString n.val)) := by
  rw [← n.text_eq_toString]
  rfl

variable {s : String}

theorem textToInteger_of_blank (blank : Text.Blank s) :
    textToInteger (.string s) = .ok .null := by
  have nothing := Text.trimChars_eq_nil_iff.mpr blank
  simp only [textToInteger, textOf, nothing]
  rfl

theorem textToInteger_of_spells {n : Integer}
    (spells : Integer.Spells (Text.trimChars s.toList) n.val) :
    textToInteger (.string s) = .ok (.integer n) := by
  have read := Integer.read_eq_ok_iff.mpr spells
  have present := List.isEmpty_eq_false_iff.mpr spells.ne_nil
  simp only [textToInteger, textOf, bind, Except.bind, present, read]
  rfl

/-- A text that is not blank and spells no integer is refused. -/
theorem textToInteger_refuses (solid : ¬ Text.Blank s)
    (spellsNone : ∀ n : Integer, ¬ Integer.Spells (Text.trimChars s.toList) n.val) :
    ∃ message, textToInteger (.string s) = .error (.failed "string" "integer" message) := by
  have present : (Text.trimChars s.toList).isEmpty = false :=
    List.isEmpty_eq_false_iff.mpr fun nothing => solid (Text.trimChars_eq_nil_iff.mp nothing)
  cases read : Integer.read (Text.trimChars s.toList) with
  | ok n => exact absurd (Integer.read_eq_ok_iff.mp read) (spellsNone n)
  | error e =>
    simp only [textToInteger, textOf, bind, Except.bind, present, read]
    exact ⟨_, rfl⟩

/-- The decimal numeral of an integer spells it, with any blanks around it. -/
theorem spells_padded (n : Integer) {before after : String} (blankBefore : Text.Blank before)
    (blankAfter : Text.Blank after) :
    Integer.Spells (Text.trimChars (before ++ toString n.val ++ after).toList) n.val := by
  have trimmed : Text.trimChars (before ++ n.text ++ after).toList = n.text.toList := by
    rw [String.toList_append, String.toList_append]
    exact Text.trimChars_pad (List.all_eq_true.mpr blankBefore) (List.all_eq_true.mpr blankAfter)
      n.toList_text_ne_nil Integer.isBlank_eq_false_of_head?_text
      Integer.isBlank_eq_false_of_getLast?_text
  rw [← n.text_eq_toString, trimmed]
  exact Integer.read_eq_ok_iff.mp n.read_text

end Standard

/-! ## Through the registry -/

namespace ConversionRegistry

variable {σ : Type} {r : ConversionRegistry (StateM σ)}

/-- The registry finds the standard converters between texts and integers. -/
structure ReadsIntegers (r : ConversionRegistry (StateM σ)) : Prop where
  writes : (r.find .integer .string).1 = some (Standard.plain Standard.scalarToText)
  reads : (r.find .string .integer).1 = some (Standard.plain Standard.textToInteger)

namespace ReadsIntegers

theorem after_standard {lookups : List (Request (StateM σ))}
    (look : ∀ request ∈ lookups, request.IsLookup) :
    ((standard : ConversionRegistry (StateM σ)).after lookups).ReadsIntegers := by
  have mindful : (standard : ConversionRegistry (StateM σ)).Mindful := .of_remembered_eq_nil rfl
  constructor
  · rw [mindful.find_after look]
    rfl
  · rw [mindful.find_after look]
    rfl

theorem convert_integer (reads : r.ReadsIntegers) (n : Integer) :
    r.convert (.integer n) .string = pure (.string (toString n.val)) := by
  rw [convert_of_find rfl reads.writes, Standard.plain, Standard.scalarToText_integer]
  rfl

theorem convert_string (reads : r.ReadsIntegers) (s : String) :
    r.convert (.string s) .integer = ExceptT.mk (pure (Standard.textToInteger (.string s))) := by
  rw [convert_of_find rfl reads.reads]
  rfl

theorem convert_of_spells (reads : r.ReadsIntegers) {s : String} {n : Integer}
    (spells : Integer.Spells (Text.trimChars s.toList) n.val) :
    r.convert (.string s) .integer = pure (.integer n) := by
  rw [reads.convert_string, Standard.textToInteger_of_spells spells]
  rfl

theorem convert_of_blank (reads : r.ReadsIntegers) {s : String} (blank : Text.Blank s) :
    r.convert (.string s) .integer = pure .null := by
  rw [reads.convert_string, Standard.textToInteger_of_blank blank]
  rfl

theorem convert_refuses (reads : r.ReadsIntegers) {s : String} (solid : ¬ Text.Blank s)
    (spellsNone : ∀ n : Integer, ¬ Integer.Spells (Text.trimChars s.toList) n.val) :
    ∃ message, r.convert (.string s) .integer = throw (.failed "string" "integer" message) := by
  obtain ⟨message, refused⟩ := Standard.textToInteger_refuses solid spellsNone
  rw [reads.convert_string, refused]
  exact ⟨message, rfl⟩

end ReadsIntegers

/-- Integers survive a trip through texts. Whatever was looked up in the standard registry before:
an integer converts to its decimal numeral, and that converts back to the integer, also with blanks
around it. A text converts to an integer exactly if it spells the integer when its blanks are taken
off, a blank text converts to null, and every other one is refused by the converter. -/
theorem standard_keeps_integers (lookups : List (Request (StateM σ)))
    (look : ∀ request ∈ lookups, request.IsLookup) :
    let r := (standard : ConversionRegistry (StateM σ)).after lookups
    (∀ n : Integer, r.convert (.integer n) .string = pure (.string (toString n.val)) ∧
      (do
        let w ← r.convert (.integer n) .string
        (r.afterConvert (.integer n) .string).convert w .integer) = pure (.integer n)) ∧
    (∀ (n : Integer) (before after : String), Text.Blank before → Text.Blank after →
      r.convert (.string (before ++ toString n.val ++ after)) .integer = pure (.integer n)) ∧
    ∀ s : String,
      (Text.Blank s → r.convert (.string s) .integer = pure .null) ∧
      (∀ n : Integer, Integer.Spells (Text.trimChars s.toList) n.val →
        r.convert (.string s) .integer = pure (.integer n)) ∧
      (¬ Text.Blank s → (∀ n : Integer, ¬ Integer.Spells (Text.trimChars s.toList) n.val) →
        ∃ message,
          r.convert (.string s) .integer = throw (.failed "string" "integer" message)) := by
  intro r
  have reads : r.ReadsIntegers := .after_standard look
  have readsAfter (n : Integer) : (r.afterConvert (.integer n) .string).ReadsIntegers := by
    have asked : ∀ request ∈ lookups ++ [.convert (.integer n) .string],
        (request : Request (StateM σ)).IsLookup := by
      rw [List.forall_mem_append, List.forall_mem_singleton]
      exact ⟨look, fun _ => rfl⟩
    have served : r.afterConvert (.integer n) .string =
        standard.after (lookups ++ [.convert (.integer n) .string]) := by
      rw [after, List.foldl_append]
      rfl
    exact served ▸ .after_standard asked
  refine ⟨fun n => ⟨reads.convert_integer n, ?_⟩, fun n before after blankBefore blankAfter => ?_,
    fun s => ⟨fun blank => reads.convert_of_blank blank, fun n => reads.convert_of_spells,
      reads.convert_refuses⟩⟩
  · have unpadded := @Standard.spells_padded n "" "" (by decide +kernel) (by decide +kernel)
    rw [String.empty_append, String.append_empty] at unpadded
    rw [reads.convert_integer n]
    exact (readsAfter n).convert_of_spells unpadded
  · exact reads.convert_of_spells (Standard.spells_padded n blankBefore blankAfter)

/-- A standard registry that has written the least integer reads it between blanks, and refuses its
magnitude, which is too large. -/
theorem standard_keeps_minimum :
    ∃ asked : ConversionRegistry (StateM Unit),
      asked = standard.after [.convert (.integer .minimum) .string] ∧
      asked.convert (.string "\t-9223372036854775808 ") .integer = pure (.integer .minimum) ∧
      ∃ message, asked.convert (.string "9223372036854775808") .integer =
        throw (.failed "string" "integer" message) := by
  have look : ∀ request ∈ [.convert (.integer .minimum) .string],
      (request : Request (StateM Unit)).IsLookup := by
    rw [List.forall_mem_singleton]
    exact fun _ => rfl
  obtain ⟨-, padded, texts⟩ := standard_keeps_integers _ look
  obtain ⟨-, -, refuses⟩ := texts "9223372036854775808"
  refine ⟨_, rfl, padded .minimum "\t" " " (by decide +kernel) (by decide +kernel),
    refuses (by decide +kernel) ?_⟩
  intro n spells
  have high := n.le_maximum
  have unpadded : Text.trimChars "9223372036854775808".toList = "9223372036854775808".toList := by
    decide +kernel
  have value : (Number.ofDigits "9223372036854775808".toList : Int) = 9223372036854775808 := by
    decide +kernel
  have unsigned (sign : Char) (other : '9' ≠ sign) (digits : List Char) :
      "9223372036854775808".toList ≠ sign :: digits :=
    fun same => other (Option.some.inj (congrArg List.head? same))
  rw [unpadded, Integer.spells_unsigned_iff (by decide) (unsigned '+' (by decide))
    (unsigned '-' (by decide)), value] at spells
  omega

end ConversionRegistry

end Remap
