/-!
# White space

The characters with the Unicode property `White_Space`, and trimming by it. Everything in the
library that skips or trims blanks uses this one class, so no-break spaces and the ideographic
space count as blank and the zero-width space does not.
-/

namespace Remap.Text

/-- The Unicode property `White_Space`. -/
def isBlank (c : Char) : Bool :=
  let n := c.toNat
  (9 ≤ n && n ≤ 13) || n == 0x20 || n == 0x85 || n == 0xA0 || n == 0x1680 ||
    (0x2000 ≤ n && n ≤ 0x200A) || n == 0x2028 || n == 0x2029 || n == 0x202F ||
    n == 0x205F || n == 0x3000

/-- The characters without the blanks at both ends. -/
def trimChars (cs : List Char) : List Char :=
  ((cs.dropWhile isBlank).reverse.dropWhile isBlank).reverse

/-- Nothing is dropped from a text that does not start with a blank. -/
theorem dropWhile_isBlank {cs : List Char} (first : ∀ c ∈ cs.head?, isBlank c = false) :
    cs.dropWhile isBlank = cs := by
  cases cs with
  | nil => rfl
  | cons c cs => exact List.dropWhile_cons_of_neg (by simp [first c rfl])

/-- Blanks around a text without blanks at its ends are taken off. -/
theorem trimChars_pad {before cs after : List Char} (blankBefore : before.all isBlank = true)
    (blankAfter : after.all isBlank = true) (present : cs ≠ [])
    (first : ∀ c ∈ cs.head?, isBlank c = false) (last : ∀ c ∈ cs.getLast?, isBlank c = false) :
    trimChars (before ++ cs ++ after) = cs := by
  have first' : ∀ c ∈ (cs ++ after).head?, isBlank c = false := by
    rwa [List.head?_append, Option.or_of_isSome (List.isSome_head?.2 present)]
  have last' : ∀ c ∈ cs.reverse.head?, isBlank c = false := by
    rwa [List.head?_reverse]
  have blankAfter' : ∀ c ∈ after.reverse, isBlank c = true := by
    simpa using blankAfter
  rw [trimChars, List.append_assoc, List.dropWhile_append_of_pos (List.all_eq_true.1 blankBefore),
    dropWhile_isBlank first', List.reverse_append, List.dropWhile_append_of_pos blankAfter',
    dropWhile_isBlank last', List.reverse_reverse]

/-- Nothing is taken off a text without blanks at its ends. -/
theorem trimChars_eq_self {cs : List Char} (present : cs ≠ [])
    (first : ∀ c ∈ cs.head?, isBlank c = false) (last : ∀ c ∈ cs.getLast?, isBlank c = false) :
    trimChars cs = cs := by
  have padded := @trimChars_pad [] cs [] rfl rfl present first last
  rwa [List.nil_append, List.append_nil] at padded

/-- What is left has no blanks at its ends, so trimming it changes nothing. -/
theorem trimChars_trimChars (cs : List Char) : trimChars (trimChars cs) = trimChars cs := by
  have first : ∀ c ∈ (trimChars cs).head?, isBlank c = false := by
    intro c member
    obtain ⟨dropped, split⟩ := List.dropWhile_suffix isBlank (l := (cs.dropWhile isBlank).reverse)
    have stopped := List.head?_dropWhile_not isBlank cs
    rw [trimChars, List.head?_reverse] at member
    rw [← List.getLast?_reverse, ← split, List.getLast?_append, Option.mem_def.1 member] at stopped
    simpa using stopped
  have last : ∀ c ∈ (trimChars cs).getLast?, isBlank c = false := by
    intro c member
    have stopped := List.head?_dropWhile_not isBlank (cs.dropWhile isBlank).reverse
    rw [trimChars, List.getLast?_reverse] at member
    rw [Option.mem_def.1 member] at stopped
    simpa using stopped
  by_cases empty : trimChars cs = []
  · rw [empty]
    rfl
  · exact trimChars_eq_self empty first last

/-- The text without the blanks at both ends. -/
def trim (s : String) : String :=
  String.ofList (trimChars s.toList)

end Remap.Text
