import Mathlib.Data.List.Infix
import Remap.Regex.Reader

/-!
# What readers of patterns leave

A reader takes characters off the front of a text: what it leaves is the end of what it was given.
Most readers take at least one character, and some a character that is known; then they leave the
end of what comes after it.
-/

namespace Remap.Regex

variable {flags : Flags} {cs rest : List Char}

theorem skipComment_suffix (cs : List Char) : skipComment cs <:+ cs := by
  fun_induction skipComment cs with
  | case1 => exact List.suffix_refl _
  | case2 c cs newline => exact List.suffix_cons _ _
  | case3 c cs other ih => exact ih.trans (List.suffix_cons _ _)

theorem skipIgnored_suffix (cs : List Char) : skipIgnored cs <:+ cs := by
  fun_induction skipIgnored cs with
  | case1 => exact List.suffix_refl _
  | case2 c rest blank ih => exact ih.trans (List.suffix_cons _ _)
  | case3 c rest solid hash ih =>
    exact ih.trans ((skipComment_suffix rest).trans (List.suffix_cons _ _))
  | case4 => exact List.suffix_refl _

theorem skip_suffix (flags : Flags) (cs : List Char) : skip flags cs <:+ cs := by
  unfold skip
  split
  · exact skipIgnored_suffix cs
  · exact List.suffix_refl _

/-- A character that comes next once blanks are skipped stands in the text, with all after it. -/
theorem suffix_of_skip {c : Char} (next : skip flags cs = c :: rest) : c :: rest <:+ cs :=
  next ▸ skip_suffix flags cs

theorem suffix_of_cons {c : Char} (text : c :: rest <:+ cs) : rest <:+ cs :=
  (List.suffix_cons c rest).trans text

theorem suffix_tail_of_cons {c : Char} (text : c :: rest <:+ cs) : rest <:+ cs.tail := by
  cases cs with
  | nil => exact absurd text.length_le (by simp)
  | cons d cs =>
    rcases List.suffix_cons_iff.mp text with same | inside
    · cases same
      exact List.suffix_refl _
    · exact (List.suffix_cons c rest).trans inside

theorem suffix_of_readHexDigits {count n m : Nat}
    (read : readHexDigits flags count n cs = some (m, rest)) : rest <:+ cs := by
  fun_induction readHexDigits flags count n cs with
    grind [skip_suffix, List.suffix_cons, List.IsSuffix.trans, List.suffix_refl]

theorem suffix_of_readHexBraced {fuel n : Nat} {got : Option Nat}
    (read : readHexBraced flags fuel got cs = some (n, rest)) : rest <:+ cs := by
  fun_induction readHexBraced flags fuel got cs with
  | case1 => cases read
  | case2 => cases read
  | case3 got fuel cs after close =>
    obtain ⟨m, -, result⟩ := Option.map_eq_some_iff.mp read
    cases result
    exact (skip_suffix flags after).trans (suffix_of_cons (suffix_of_skip close))
  | case4 => cases read
  | case5 got fuel cs c after _ next d digit ih =>
    exact (ih read).trans (suffix_of_cons (suffix_of_skip next))

theorem suffix_of_readHex {digits : Nat} {e : Escape}
    (read : readHex flags digits cs = some (e, rest)) : rest <:+ cs := by
  unfold readHex at read
  split at read
  · cases read
  · next after brace =>
    obtain ⟨⟨n, rest'⟩, braced, read⟩ := Option.bind_eq_some_iff.mp read
    have inside := suffix_of_readHexBraced braced
    dsimp only at read
    split at read
    · cases read
      exact inside.trans (suffix_of_cons (suffix_of_skip brace))
    · cases read
  · obtain ⟨⟨n, rest'⟩, fixed, read⟩ := Option.bind_eq_some_iff.mp read
    have inside := suffix_of_readHexDigits fixed
    dsimp only at read
    split at read
    · cases read
      exact inside.trans (skip_suffix flags cs)
    · cases read

theorem suffix_of_readBraced {fuel : Nat} {got : List Char} {name : String}
    (read : readBraced flags fuel got cs = some (name, rest)) : rest <:+ cs := by
  fun_induction readBraced flags fuel got cs with
    grind [suffix_of_skip, suffix_of_cons, List.IsSuffix.trans]

theorem suffix_of_readConditionName {fuel : Nat} {got : List Char} {name : String}
    (read : readConditionName flags fuel got cs = some (name, rest)) :
    rest <:+ cs := by
  fun_induction readConditionName flags fuel got cs with
    grind [skip_suffix, List.suffix_cons, List.IsSuffix.trans]

theorem suffix_of_readPropertyName {property : CharSet × Bool}
    (read : readPropertyName flags cs = some (property, rest)) : rest <:+ cs := by
  unfold readPropertyName at read
  split at read
  · cases read
  · next more brace =>
    obtain ⟨⟨text, after⟩, braced, read⟩ := Option.bind_eq_some_iff.mp read
    obtain ⟨found, -, read⟩ := Option.bind_eq_some_iff.mp read
    cases read
    exact (suffix_of_readBraced braced).trans (suffix_of_cons (suffix_of_skip brace))
  · next c more _ next =>
    split at read
    · cases read
    · obtain ⟨set, -, read⟩ := Option.bind_eq_some_iff.mp read
      cases read
      exact (skip_suffix flags more).trans (suffix_of_cons (suffix_of_skip next))

theorem suffix_of_readProperty {negated : Bool} {e : Escape}
    (read : readProperty flags negated cs = some (e, rest)) : rest <:+ cs := by
  obtain ⟨⟨property, after⟩, named, read⟩ := Option.bind_eq_some_iff.mp read
  dsimp only at read
  split at read
  · obtain ⟨set, -, read⟩ := Option.bind_eq_some_iff.mp read
    cases read
    exact suffix_of_readPropertyName named
  · cases read

theorem suffix_of_readWordCondition {e : Escape}
    (read : readWordCondition flags cs = some (e, rest)) : rest <:+ cs := by
  unfold readWordCondition at read
  split at read
  · next more =>
    split at read
    · cases read
    · next c after next =>
      split at read
      · obtain ⟨⟨name, after'⟩, named, read⟩ := Option.bind_eq_some_iff.mp read
        have inside : after' <:+ '{' :: more :=
          (suffix_of_readConditionName named).trans
            ((suffix_of_skip next).trans (List.suffix_cons _ _))
        dsimp only at read
        split at read <;> cases read <;> exact inside
      · cases read
        exact List.suffix_refl _
  · cases read
    exact List.suffix_refl _

/-- An escape takes at least its letter. -/
theorem suffix_of_readEscape {e : Escape} (read : readEscape flags cs = some (e, rest)) :
    rest <:+ cs.tail := by
  unfold readEscape at read
  split at read
  · cases read
  dsimp only at read
  split at read
  · cases read
  split at read
  · exact suffix_of_readHex read
  split at read
  · exact suffix_of_readHex read
  split at read
  · exact suffix_of_readHex read
  split at read
  · exact suffix_of_readProperty read
  split at read
  · cases read
    exact List.suffix_refl _
  split at read
  case h_9 => exact suffix_of_readWordCondition read
  case h_13 =>
    split at read <;> cases read
    exact List.suffix_refl _
  all_goals
    cases read
    exact List.suffix_refl _

theorem suffix_of_readSetName {s : CharSet} (read : readSetName cs = some (s, rest)) :
    rest <:+ cs := by
  unfold readSetName at read
  split at read
  · next after colon =>
    obtain ⟨set, -, read⟩ := Option.bind_eq_some_iff.mp read
    cases read
    have close : ':' :: ']' :: rest <:+ cs := colon ▸ List.dropWhile_suffix _
    exact suffix_of_cons (suffix_of_cons close)
  · cases read

theorem suffix_of_readNamedSet {s : CharSet} {negated : Bool}
    (read : readNamedSet cs = some (s, negated, rest)) : rest <:+ cs := by
  unfold readNamedSet at read
  split at read
  · obtain ⟨⟨set, after⟩, named, read⟩ := Option.bind_eq_some_iff.mp read
    cases read
    exact (suffix_of_readSetName named).trans (suffix_of_cons (List.suffix_cons _ _))
  · obtain ⟨⟨set, after⟩, named, read⟩ := Option.bind_eq_some_iff.mp read
    cases read
    exact (suffix_of_readSetName named).trans (List.suffix_cons _ _)
  · cases read

theorem suffix_of_readSetItem {e : Escape} (read : readSetItem flags cs = some (e, rest)) :
    rest <:+ cs.tail := by
  unfold readSetItem at read
  split at read
  · cases read
  · exact (suffix_of_readEscape read).trans (List.tail_suffix _)
  · cases read
    exact List.suffix_refl _

theorem suffix_of_readSetRange {part : SetPart}
    (read : readSetRange flags cs = some (part, rest)) : rest <:+ cs.tail := by
  obtain ⟨⟨first, after⟩, item, read⟩ := Option.bind_eq_some_iff.mp read
  have inside := (skip_suffix flags after).trans (suffix_of_readSetItem item)
  dsimp only at read
  split at read
  · cases read
  · next more hyphen =>
    rw [hyphen] at inside
    split at read
    · obtain ⟨single, -, read⟩ := Option.bind_eq_some_iff.mp read
      cases read
      exact inside
    · obtain ⟨⟨second, after'⟩, item', read⟩ := Option.bind_eq_some_iff.mp read
      obtain ⟨range, -, read⟩ := Option.bind_eq_some_iff.mp read
      cases read
      exact (suffix_of_readSetItem item').trans ((List.tail_suffix _).trans
        ((skip_suffix flags more).trans (suffix_of_cons inside)))
  · obtain ⟨single, -, read⟩ := Option.bind_eq_some_iff.mp read
    cases read
    exact inside

theorem suffix_of_takeHyphens {fuel : Nat} {got parts : List SetPart}
    (read : takeHyphens flags fuel got cs = some (parts, rest)) : rest <:+ cs := by
  fun_induction takeHyphens flags fuel got cs with
    grind [skip_suffix, List.suffix_cons, List.IsSuffix.trans, List.suffix_refl]

theorem readNegation_suffix (flags : Flags) (cs : List Char) :
    (readNegation flags cs).2 <:+ cs := by
  unfold readNegation
  split
  · exact (skip_suffix flags _).trans (List.suffix_cons _ _)
  · exact List.suffix_refl _

theorem suffix_of_readSetOpening {negated : Bool} {parts : List SetPart}
    (read : readSetOpening flags cs = some (negated, parts, rest)) : rest <:+ cs := by
  unfold readSetOpening at read
  obtain ⟨⟨got, after⟩, hyphens, read⟩ := Option.bind_eq_some_iff.mp read
  have inside : after <:+ cs := (suffix_of_takeHyphens hyphens).trans
    ((readNegation_suffix flags _).trans (skip_suffix flags cs))
  dsimp only at read
  split at read
  · split at read
    · cases read
    · cases read
      exact (skip_suffix flags _).trans (suffix_of_cons inside)
  · cases read
    exact inside

/-- A class ends with a closing bracket. -/
theorem suffix_of_readSetBody {fuel : Nat} {negated : Bool}
    {left : Option (SetOperator × SetPart)} {parts : List SetPart} {part : SetPart}
    (read : readSetBody flags fuel negated left parts cs = some (part, rest)) :
    ']' :: rest <:+ cs := by
  induction fuel generalizing negated left parts cs part rest with
  | zero => cases read
  | succ fuel ih =>
    unfold readSetBody at read
    dsimp only at read
    split at read
    · cases read
    · next more bracket =>
      have inside := suffix_of_cons (suffix_of_skip bracket)
      split at read
      · next s without after named =>
        split at read
        · cases read
        · exact (ih read).trans ((suffix_of_readNamedSet named).trans inside)
      · split at read
        · cases read
        · next innerNegated innerParts after opening =>
          split at read
          · cases read
          · next part' after' body =>
            exact (ih read).trans ((suffix_of_cons (ih body)).trans
              ((suffix_of_readSetOpening opening).trans inside))
    · next more bracket =>
      obtain ⟨s, -, read⟩ := Option.map_eq_some_iff.mp read
      cases read
      exact suffix_of_skip bracket
    · next more operator =>
      exact (ih read).trans (suffix_of_cons (suffix_of_cons (suffix_of_skip operator)))
    · next more operator =>
      exact (ih read).trans (suffix_of_cons (suffix_of_cons (suffix_of_skip operator)))
    · next more operator =>
      exact (ih read).trans (suffix_of_cons (suffix_of_cons (suffix_of_skip operator)))
    · split at read
      · cases read
      · next part' after range =>
        exact (ih read).trans ((suffix_of_readSetRange range).trans
          ((List.tail_suffix _).trans (skip_suffix flags cs)))

theorem readDigits_suffix (flags : Flags) (fuel : Nat) (got cs : List Char) :
    (readDigits flags fuel got cs).2 <:+ cs := by
  fun_induction readDigits flags fuel got cs with
    grind [skip_suffix, List.suffix_cons, List.IsSuffix.trans, List.suffix_refl]

theorem suffix_of_readCount {n : Option Nat} (read : readCount flags cs = some (n, rest)) :
    rest <:+ cs := by
  have inside : skip flags ((readDigits flags ((cs.dropWhile Text.isBlank).length + 1) []
      (cs.dropWhile Text.isBlank)).2.dropWhile Text.isBlank) <:+ cs :=
    (skip_suffix flags _).trans ((List.dropWhile_suffix _).trans
      ((readDigits_suffix flags _ _ _).trans (List.dropWhile_suffix _)))
  unfold readCount at read
  dsimp only at read
  split at read
  · cases read
    exact inside
  · split at read
    · cases read
      exact inside
    · cases read

/-- Bounds take at least one character that counts. -/
theorem suffix_of_readBounds {least : Nat} {most : Option Nat}
    (read : readBounds flags cs = some (least, most, rest)) : rest <:+ (skip flags cs).tail := by
  obtain ⟨⟨first, after⟩, count, read⟩ := Option.bind_eq_some_iff.mp read
  obtain ⟨n, -, read⟩ := Option.bind_eq_some_iff.mp read
  have inside := suffix_of_readCount count
  dsimp only at read inside
  split at read
  · have comma := suffix_tail_of_cons inside
    split at read
    · next brace =>
      cases read
      exact (skip_suffix flags _).trans ((suffix_of_cons (suffix_of_skip brace)).trans comma)
    · obtain ⟨⟨second, after'⟩, count', read⟩ := Option.bind_eq_some_iff.mp read
      obtain ⟨m, -, read⟩ := Option.bind_eq_some_iff.mp read
      have inside' := (suffix_of_readCount count').trans ((skip_suffix flags _).trans comma)
      dsimp only at read inside'
      split at read
      · split at read
        · cases read
          exact (skip_suffix flags _).trans (suffix_of_cons inside')
        · cases read
      · cases read
  · cases read
    exact (skip_suffix flags _).trans (suffix_tail_of_cons inside)
  · cases read

theorem suffix_of_readFlags {seen letters : List Char} {on : Bool} {flags' : Flags}
    (read : readFlags seen on flags cs = some (flags', letters, rest)) : rest <:+ cs := by
  fun_induction readFlags seen on flags cs with
    grind [List.suffix_cons, List.IsSuffix.trans, List.suffix_refl]

theorem suffix_of_readGroupName {name : String} (read : readGroupName cs = some (name, rest)) :
    rest <:+ cs := by
  unfold readGroupName at read
  dsimp only at read
  split at read
  · next close _ =>
    split at read
    · cases read
      exact suffix_of_cons (close ▸ List.dropWhile_suffix _)
    · cases read
  · cases read

theorem suffix_of_readOpening {opening : Opening}
    (read : readOpening flags cs = some (opening, rest)) : rest <:+ cs := by
  unfold readOpening at read
  split at read
  · cases read
  · cases read
  · cases read
  · cases read
  · next more start =>
    obtain ⟨⟨name, after⟩, name_read, read⟩ := Option.bind_eq_some_iff.mp read
    cases read
    have inside := suffix_of_cons (suffix_of_cons (suffix_of_skip start))
    exact (suffix_of_readGroupName name_read).trans (suffix_of_cons inside)
  · next more _ _ start =>
    obtain ⟨⟨name, after⟩, name_read, read⟩ := Option.bind_eq_some_iff.mp read
    cases read
    have inside := suffix_of_cons (suffix_of_skip start)
    exact (suffix_of_readGroupName name_read).trans (suffix_of_cons inside)
  · next more start =>
    obtain ⟨⟨inner, letters, after⟩, flags_read, read⟩ := Option.bind_eq_some_iff.mp read
    have inside := (suffix_of_readFlags flags_read).trans (suffix_of_cons (suffix_of_skip start))
    dsimp only at read inside
    split at read
    · split at read
      · cases read
      · cases read
        exact suffix_of_cons inside
    · cases read
      exact suffix_of_cons inside
    · cases read
  · cases read
    exact skip_suffix flags cs

theorem suffix_of_readPrimitive {node : Node}
    (read : readPrimitive flags cs = some (node, rest)) : rest <:+ cs.tail := by
  unfold readPrimitive at read
  split at read
  · cases read
  · obtain ⟨⟨e, after⟩, escape, read⟩ := Option.bind_eq_some_iff.mp read
    have inside := (suffix_of_readEscape escape).trans (List.tail_suffix _)
    dsimp only at read
    split at read
    · obtain ⟨literal, -, read⟩ := Option.map_eq_some_iff.mp read
      cases read
      exact inside
    · cases read
      exact inside
    · cases read
      exact inside
  · split at read
    · cases read
    · cases read
      exact List.suffix_refl _
  · cases read
    exact List.suffix_refl _
  · cases read
    exact List.suffix_refl _
  · obtain ⟨literal, -, read⟩ := Option.map_eq_some_iff.mp read
    cases read
    exact List.suffix_refl _

theorem readGreed_suffix (flags : Flags) (cs : List Char) : (readGreed flags cs).2 <:+ cs := by
  unfold readGreed
  split
  · exact List.suffix_cons _ _
  · exact List.suffix_refl _

theorem suffix_of_repeated {place after : Place} {least : Nat} {most : Option Nat}
    (read : place.repeated least most cs = some (after, rest)) : rest <:+ cs := by
  obtain ⟨⟨piece, before⟩, -, read⟩ := Option.bind_eq_some_iff.mp read
  cases read
  exact readGreed_suffix _ cs

/-- A part takes at least one character. -/
theorem suffix_of_readPart {nested : GroupReader} {place after : Place}
    (inner : ∀ {place cs piece groups rest},
      nested place cs = some (piece, groups, rest) → ')' :: rest <:+ cs)
    (read : readPart nested place cs = some (after, rest)) : rest <:+ cs.tail := by
  unfold readPart at read
  split at read
  · obtain ⟨⟨opening, more⟩, opened, read⟩ := Option.bind_eq_some_iff.mp read
    have inside := suffix_of_readOpening opened
    dsimp only at read
    split at read
    · cases read
      exact inside
    · obtain ⟨⟨piece, groups, more'⟩, group, read⟩ := Option.bind_eq_some_iff.mp read
      cases read
      exact (suffix_of_cons (inner group)).trans inside
    · split at read
      · cases read
      · obtain ⟨⟨piece, groups, more'⟩, group, read⟩ := Option.bind_eq_some_iff.mp read
        cases read
        exact (suffix_of_cons (inner group)).trans inside
  · cases read
    exact List.suffix_refl _
  · obtain ⟨⟨negated, parts, more⟩, opened, read⟩ := Option.bind_eq_some_iff.mp read
    obtain ⟨⟨part, more'⟩, body, read⟩ := Option.bind_eq_some_iff.mp read
    cases read
    exact (suffix_of_cons (suffix_of_readSetBody body)).trans (suffix_of_readSetOpening opened)
  · exact suffix_of_repeated read
  · exact suffix_of_repeated read
  · exact suffix_of_repeated read
  · obtain ⟨⟨least, most, more⟩, bounds, read⟩ := Option.bind_eq_some_iff.mp read
    exact (suffix_of_repeated read).trans
      ((suffix_of_readBounds bounds).trans ((List.tail_suffix _).trans (skip_suffix _ _)))
  · obtain ⟨⟨node, more⟩, primitive, read⟩ := Option.bind_eq_some_iff.mp read
    cases read
    exact suffix_of_readPrimitive primitive

/-- A group ends with a closing parenthesis. -/
theorem suffix_of_readGroup {fuel : Nat} {place : Place} {piece : Piece}
    {groups : List (Option String)}
    (read : readGroup fuel true place cs = some (piece, groups, rest)) : ')' :: rest <:+ cs := by
  induction fuel generalizing place cs piece groups rest with
  | zero => cases read
  | succ fuel ih =>
    rw [readGroup] at read
    split at read
    · cases read
    · next close =>
      cases read
      exact suffix_of_skip close
    · obtain ⟨⟨after, more⟩, part, read⟩ := Option.bind_eq_some_iff.mp read
      exact (ih read).trans ((suffix_of_readPart ih part).trans
        ((List.tail_suffix _).trans (skip_suffix _ cs)))

end Remap.Regex
