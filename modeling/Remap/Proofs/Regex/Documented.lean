import Remap.Regex.Engine

/-!
# What engines document

Of all that an engine says of its patterns, full matches rest on a few rules: when a pattern is
found in a text, what the two anchors and a group match, that parts in a row match one after the
other, and that parentheses belong together. `Documented` collects them. They are told with a
relation of the engine: the pattern `p` matches the part of the text `s` between the positions `i`
and `j`, counted in characters.
-/

namespace Remap.Regex

/-- A closing parenthesis of a text is its last one, or the last one stands behind it. -/
theorem eq_or_exists_of_append {u rest cs tail : List Char} (last : ')' ∉ tail)
    (text : u ++ ')' :: rest = cs ++ ')' :: tail) : u = cs ∨ ∃ more, cs = u ++ ')' :: more := by
  rcases List.append_eq_append_iff.mp text with ⟨more, same, left_over⟩ | ⟨more, same, left_over⟩
  · cases more with
    | nil => exact .inl (by simpa using same.symm)
    | cons c more =>
      cases left_over
      exact .inr ⟨more, same⟩
  · cases more with
    | nil => exact .inl (by simpa using same)
    | cons c more =>
      cases left_over
      simp at last

variable [Engine]

/-- A text is a pattern if it is not refused for its syntax. -/
def IsPattern (p : String) : Prop := ∀ message, Engine.read p ≠ .error (.invalid message)

/-- A pattern in a group. -/
def grouped (p : String) : String := "(?:" ++ p ++ ")"

/-- A text that is a pattern both by itself and in a group. -/
structure FitsGroup (p : String) : Prop where
  alone : IsPattern p
  inGroup : IsPattern (grouped p)

/-- The rules of an engine on which full matches rest. -/
structure Documented (Spans : (p s : String) → (i j : Nat) → Prop) : Prop where
  /-- A pattern knows the text it was read from. -/
  source {p : String} {r : Regex} : Engine.read p = .ok r → r.source = p
  /-- A pattern is found in a text if it matches some part of it. -/
  found {p : String} {r : Regex} : Engine.read p = .ok r →
    ∀ s, r.isMatch s = true ↔ ∃ i j, Spans p s i j
  /-- A caret matches at the start of a text. -/
  caret {s : String} {i j : Nat} : Spans "^" s i j ↔ i = 0 ∧ j = 0
  /-- A dollar sign matches at the end of a text. -/
  dollar {s : String} {i j : Nat} : Spans "$" s i j ↔ i = s.length ∧ j = s.length
  /-- A group matches what its pattern matches. -/
  group {p s : String} {i j : Nat} : FitsGroup p → (Spans (grouped p) s i j ↔ Spans p s i j)
  /-- An anchor, a group and an anchor in a row match one after the other. -/
  row {p s : String} {i j : Nat} : FitsGroup p → IsPattern ("^" ++ grouped p ++ "$") →
    (Spans ("^" ++ grouped p ++ "$") s i j ↔
      ∃ k l, Spans "^" s i k ∧ Spans (grouped p) s k l ∧ Spans "$" s l j)
  /-- A group is closed by a parenthesis, with a pattern between the two. -/
  closed {t : String} : IsPattern ("^(?:" ++ t) → ∃ p u, t = p ++ ")" ++ u ∧ FitsGroup p
  /-- A parenthesis that closes no group is refused. -/
  unopened {p u : String} : FitsGroup p → ¬IsPattern (p ++ ")" ++ u)

end Remap.Regex
