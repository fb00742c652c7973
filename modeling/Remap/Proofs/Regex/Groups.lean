import Remap.Proofs.Regex.Sets

/-!
# Groups in texts that are alike

A group that ends before the closing parenthesis is read alike in both texts. A group that ends with
it is read in the other text up to where that text stops: by itself it is the same pattern, in
another group it is the same group, and before a closing parenthesis that no group opens it is no
pattern.
-/

namespace Remap.Regex

variable {r t cs ds rest : List Char} {flags : Flags}

/-! ## Repetitions -/

theorem readDigits_alike {fuel fuel' : Nat} {got digits : List Char} (alike : Alike r t cs ds)
    (read : readDigits flags fuel got cs = (digits, rest)) (short : r.length < rest.length)
    (enough : cs.length < fuel) (enough' : ds.length < fuel') :
    ∃ rest', readDigits flags fuel' got ds = (digits, rest') ∧ Alike r t rest rest' := by
  fun_induction readDigits flags fuel got cs generalizing ds fuel' with
  | case1 => cases enough
  | case2 fuel got c more digit ih =>
    have taken := (readDigits_suffix flags fuel (c :: got) (skip flags more)).length_le
    have skipped := (skip_suffix flags more).length_le
    rw [read] at taken
    dsimp only at taken
    obtain ⟨ds, rfl, after⟩ := alike.tail (by omega)
    cases fuel' with
    | zero => cases enough'
    | succ fuel' =>
      rw [List.length_cons] at enough enough'
      have skipped' := (skip_suffix flags ds).length_le
      obtain ⟨rest', read', same⟩ := @ih _ fuel' (skip_alike flags after (by omega)) read
        (by omega) (by omega)
      refine ⟨rest', ?_, same⟩
      simp only [readDigits, digit, read', if_true]
  | case3 fuel got c more digit =>
    cases read
    cases fuel' with
    | zero => cases enough'
    | succ fuel' =>
      refine ⟨ds, ?_, alike⟩
      cases alike with
      | stop stops => cases stops <;> rfl
      | cons c after => simp [readDigits, digit]
  | case4 => cases alike

theorem readCount_alike {n : Option Nat} (alike : Alike r t cs ds)
    (read : readCount flags cs = some (n, rest)) (short : r.length < rest.length) :
    ∃ rest', readCount flags ds = some (n, rest') ∧ Alike r t rest rest' := by
  cases digits : readDigits flags ((cs.dropWhile Text.isBlank).length + 1) []
      (cs.dropWhile Text.isBlank) with
  | mk got more =>
    have ends : skip flags (more.dropWhile Text.isBlank) = rest := by
      simp only [readCount, digits] at read
      split at read
      · cases read
        rfl
      · split at read <;> cases read
        rfl
    have left_over : rest.length ≤ more.length :=
      ends ▸ ((skip_suffix flags _).trans (List.dropWhile_suffix _)).length_le
    have skipped : rest.length ≤ (more.dropWhile Text.isBlank).length :=
      ends ▸ (skip_suffix flags _).length_le
    obtain ⟨more', digits', inside⟩ := readDigits_alike (dropBlanks_alike alike) digits
      (short.trans_le left_over) (Nat.lt_succ_self _) (Nat.lt_succ_self _)
    refine ⟨skip flags (more'.dropWhile Text.isBlank), ?_, ?_⟩
    · simp only [readCount, digits, digits'] at read ⊢
      split at read
      · next none =>
        cases read
        simp only [none, if_true]
      · next some =>
        split at read
        · next bounded =>
          cases read
          simp only [some, bounded, if_true]
          rfl
        · cases read
    · rw [← ends]
      exact skip_alike flags (dropBlanks_alike inside) (ends ▸ short)

theorem readBounds_alike {least : Nat} {most : Option Nat} (alike : Alike r t cs ds)
    (read : readBounds flags cs = some (least, most, rest)) (short : r.length < rest.length) :
    ∃ rest', readBounds flags ds = some (least, most, rest') ∧ Alike r t rest rest' := by
  unfold readBounds at read
  obtain ⟨⟨first, after⟩, count, bounds⟩ := Option.bind_eq_some_iff.mp read
  obtain ⟨n, known, ending⟩ := Option.bind_eq_some_iff.mp bounds
  have taken := (suffix_of_readCount count).length_le
  dsimp only at ending known
  split at ending
  · next more =>
    rw [List.length_cons] at taken
    split at ending
    · next more' brace =>
      cases ending
      have skipped := (skip_suffix flags more').length_le
      have inside := length_lt_of_skip brace
      obtain ⟨after', count', alike₁⟩ :=
        readCount_alike (skip_alike flags alike (by omega)) count (by simp; omega)
      obtain ⟨ds₁, rfl, alike₂⟩ := alike₁.tail_of_ne (by decide)
      obtain ⟨ds₂, brace', alike₃⟩ := alike₂.skip_cons brace (by omega)
      refine ⟨skip flags ds₂, ?_, skip_alike flags alike₃ short⟩
      simp [readBounds, count', known, brace']
    · next no_brace =>
      obtain ⟨⟨second, after'⟩, count₂, bounds₂⟩ := Option.bind_eq_some_iff.mp ending
      obtain ⟨m, known₂, ending₂⟩ := Option.bind_eq_some_iff.mp bounds₂
      have taken₂ := (suffix_of_readCount count₂).length_le
      dsimp only at ending₂ known₂
      split at ending₂
      · next more₂ =>
        split at ending₂
        · next ordered =>
          cases ending₂
          rw [List.length_cons] at taken₂
          have skipped := (skip_suffix flags more₂).length_le
          have skipped' := (skip_suffix flags more).length_le
          obtain ⟨after', count', alike₁⟩ :=
            readCount_alike (skip_alike flags alike (by omega)) count (by simp; omega)
          obtain ⟨ds₁, rfl, alike₂⟩ := alike₁.tail_of_ne (by decide)
          have alike₃ := skip_alike flags alike₂ (by omega)
          obtain ⟨after₂, count₂', alike₄⟩ := readCount_alike alike₃ count₂ (by simp; omega)
          obtain ⟨ds₂, rfl, alike₅⟩ := alike₄.tail_of_ne (by decide)
          refine ⟨skip flags ds₂, ?_, skip_alike flags alike₅ short⟩
          simp only [readBounds, count', known, Option.bind_eq_bind, Option.bind_some]
          split
          · next brace' =>
            rw [brace'] at alike₃
            obtain ⟨more', brace, -⟩ := alike₃.tail_of_second (by decide)
            exact absurd brace (no_brace _)
          · simp [count₂', known₂, ordered]
        · cases ending₂
      · cases ending₂
  · next more =>
    cases ending
    have skipped := (skip_suffix flags more).length_le
    rw [List.length_cons] at taken
    obtain ⟨after', count', alike₁⟩ :=
      readCount_alike (skip_alike flags alike (by omega)) count (by simp; omega)
    obtain ⟨ds₁, rfl, alike₂⟩ := alike₁.tail_of_ne (by decide)
    exact ⟨skip flags ds₁, by simp [readBounds, count', known], skip_alike flags alike₂ short⟩
  · cases ending

theorem readFlags_alike {seen letters : List Char} {on : Bool} {flags' : Flags}
    (alike : Alike r t cs ds) (read : readFlags seen on flags cs = some (flags', letters, rest))
    (short : r.length + 1 < rest.length) :
    ∃ rest', readFlags seen on flags ds = some (flags', letters, rest') ∧ Alike r t rest rest' := by
  induction cs generalizing seen on flags ds with
  | nil => cases read
  | cons c cs ih =>
    have taken := (suffix_of_readFlags read).length_le
    rw [List.length_cons] at taken
    obtain ⟨ds, rfl, after⟩ := alike.tail (by omega)
    unfold readFlags at read ⊢
    split at read
    · next ended =>
      rw [if_pos ended]
      split at read
      · cases read
      · next complete =>
        cases read
        rw [if_neg complete]
        exact ⟨_, rfl, alike⟩
    next going =>
    rw [if_neg going]
    split at read
    · cases read
    next new =>
    rw [if_neg new]
    split at read
    · next minus =>
      rw [if_pos minus]
      exact ih after read
    next letter =>
    rw [if_neg letter]
    split at read
    · exact ih after read
    · cases read

theorem readGroupName_alike {name : String} (alike : Alike r t cs ds)
    (read : readGroupName cs = some (name, rest)) (short : r.length < rest.length) :
    ∃ rest', readGroupName ds = some (name, rest') ∧ Alike r t rest rest' := by
  unfold readGroupName at read
  dsimp only at read
  split at read
  · next first more close letters =>
    split at read
    · next valid =>
      cases read
      obtain ⟨inside, same⟩ := @dropWhile_alike _ _ _ _ (· != '>') alike
        (fun _ => by rw [close]; exact Nat.lt_succ_of_lt short)
      rw [close] at inside
      obtain ⟨ds', close', after⟩ := inside.tail_of_ne (by decide)
      refine ⟨ds', ?_, after⟩
      rw [letters] at same
      simp [readGroupName, close', ← same, letters, valid]
    · cases read
  · cases read

theorem readOpening_alike {opening : Opening} (alike : Alike r t cs ds)
    (read : readOpening flags cs = some (opening, rest)) (short : r.length < rest.length) :
    ∃ rest', readOpening flags ds = some (opening, rest') ∧ Alike r t rest rest' := by
  have far := short.trans_le (suffix_of_readOpening read).length_le
  unfold readOpening at read
  split at read
  · cases read
  · cases read
  · cases read
  · cases read
  · next more start =>
    obtain ⟨⟨name, after⟩, named, result⟩ := Option.bind_eq_some_iff.mp read
    cases result
    have taken := (suffix_of_readGroupName named).length_le
    obtain ⟨ds₁, start', alike₁⟩ := alike.skip_cons start (by simp; omega)
    obtain ⟨ds₂, rfl, alike₂⟩ := alike₁.tail_of_ne (by decide)
    obtain ⟨ds₃, rfl, alike₃⟩ := alike₂.tail_of_ne (by decide)
    obtain ⟨rest', named', same⟩ := readGroupName_alike alike₃ named short
    exact ⟨rest', by simp [readOpening, start', named'], same⟩
  · next more no_look no_look' start =>
    obtain ⟨⟨name, after⟩, named, result⟩ := Option.bind_eq_some_iff.mp read
    cases result
    have taken := (suffix_of_readGroupName named).length_le
    obtain ⟨ds₁, start', alike₁⟩ := alike.skip_cons start (by simp; omega)
    obtain ⟨ds₂, rfl, alike₂⟩ := alike₁.tail_of_ne (by decide)
    obtain ⟨rest', named', same⟩ := readGroupName_alike alike₂ named short
    refine ⟨rest', ?_, same⟩
    have no_equal := alike₂.not_cons (by decide) no_look
    have no_bang := alike₂.not_cons (by decide) no_look'
    simp [readOpening, start', named']
  · next more no_equal no_bang no_less_equal no_less_bang no_p no_less start =>
    obtain ⟨⟨inner, letters, after⟩, letters_read, result⟩ := Option.bind_eq_some_iff.mp read
    have taken := (suffix_of_readFlags letters_read).length_le
    dsimp only at result taken
    obtain ⟨more', rfl⟩ : ∃ c, after = c :: rest := by
      split at result
      · split at result
        · cases result
        · cases result
          exact ⟨_, rfl⟩
      · cases result
        exact ⟨_, rfl⟩
      · cases result
    rw [List.length_cons] at taken
    obtain ⟨ds₁, start', alike₁⟩ := alike.skip_cons start (by omega)
    obtain ⟨after', letters_read', inside⟩ := readFlags_alike alike₁ letters_read (by simp; omega)
    obtain ⟨rest', rfl, same⟩ := inside.tail short
    refine ⟨rest', ?_, same⟩
    have no_equal' := alike₁.not_cons (by decide) no_equal
    have no_bang' := alike₁.not_cons (by decide) no_bang
    have no_less' := alike₁.not_cons (by decide) no_less
    have no_less_equal' (text : List Char) := no_less' ('=' :: text)
    have no_less_bang' (text : List Char) := no_less' ('!' :: text)
    have no_p' := alike₁.not_cons_cons (by decide) (by decide) no_p
    simp only [readOpening, start', letters_read', Option.bind_eq_bind, Option.bind_some]
    split at result
    · next close =>
      cases close
      split at result
      · cases result
      · next complete =>
        cases result
        exact if_neg complete
    · next colon =>
      cases colon
      cases result
      rfl
    · cases result
  · next no_equal no_bang no_less_equal no_less_bang no_p no_less no_start =>
    cases read
    have skipped := skip_alike flags alike short
    have no_start' := skipped.not_cons (by decide) no_start
    refine ⟨skip flags ds, ?_, skipped⟩
    unfold readOpening
    split
    case h_8 => rfl
    all_goals exact absurd ‹_› (no_start' _)

theorem readPrimitive_alike {node : Node} (alike : Alike r t cs ds)
    (read : readPrimitive flags cs = some (node, rest)) (short : r.length < rest.length) :
    (∃ rest', readPrimitive flags ds = some (node, rest') ∧ Alike r t rest rest') ∨
      ∃ more, rest = '\x7b' :: more ∧ (skip flags more).length ≤ r.length + 1 := by
  have taken := (suffix_of_readPrimitive read).length_le
  unfold readPrimitive at read
  split at read
  · cases read
  · next more =>
    obtain ⟨⟨e, after⟩, escape, result⟩ := Option.bind_eq_some_iff.mp read
    obtain ⟨ds, rfl, alike'⟩ := alike.tail_of_ne (by decide)
    have ends : after = rest := by
      dsimp only at result
      split at result
      · obtain ⟨literal, -, result⟩ := Option.map_eq_some_iff.mp result
        cases result
        rfl
      · cases result
        rfl
      · cases result
        rfl
    subst ends
    rcases readEscape_alike alike' escape short with
      ⟨rest', escape', same⟩ | ⟨l, more', rfl, rfl, near⟩
    · refine .inl ⟨rest', ?_, same⟩
      simp only [readPrimitive, escape', Option.bind_eq_bind, Option.bind_some]
      dsimp only at result
      split at result
      · obtain ⟨literal, known, result⟩ := Option.map_eq_some_iff.mp result
        cases result
        simp [known]
      · cases result
        rfl
      · cases result
        rfl
    · exact .inr ⟨more', rfl, near⟩
  · next more =>
    split at read
    · cases read
    · next unicode =>
      cases read
      obtain ⟨ds, rfl, alike'⟩ := alike.tail_of_ne (by decide)
      exact .inl ⟨ds, by simp [readPrimitive, unicode], alike'⟩
  · next more =>
    cases read
    obtain ⟨ds, rfl, alike'⟩ := alike.tail_of_ne (by decide)
    exact .inl ⟨ds, rfl, alike'⟩
  · next more =>
    cases read
    obtain ⟨ds, rfl, alike'⟩ := alike.tail_of_ne (by decide)
    exact .inl ⟨ds, rfl, alike'⟩
  · next c more no_escape no_dot no_start no_end =>
    obtain ⟨literal, known, result⟩ := Option.map_eq_some_iff.mp read
    cases result
    obtain ⟨ds, rfl, alike'⟩ := alike.tail short
    refine .inl ⟨ds, ?_, alike'⟩
    rw [readPrimitive, known]
    exacts [rfl, no_escape, no_dot, no_start, no_end]

theorem readGreed_alike {greedy : Bool} (alike : Alike r t cs ds)
    (read : readGreed flags cs = (greedy, rest)) :
    ∃ rest', readGreed flags ds = (greedy, rest') ∧ Alike r t rest rest' := by
  unfold readGreed at read
  split at read
  · cases read
    obtain ⟨ds, rfl, after⟩ := alike.tail_of_ne (by decide)
    exact ⟨ds, rfl, after⟩
  · next other =>
    cases read
    refine ⟨ds, ?_, alike⟩
    unfold readGreed
    split
    · obtain ⟨cs, rfl, -⟩ := alike.tail_of_second (by decide)
      exact absurd rfl (other _)
    · rfl

theorem repeated_alike {place after : Place} {least : Nat} {most : Option Nat}
    (alike : Alike r t cs ds) (read : place.repeated least most cs = some (after, rest)) :
    ∃ rest', place.repeated least most ds = some (after, rest') ∧ Alike r t rest rest' := by
  unfold Place.repeated at read
  obtain ⟨⟨piece, before⟩, popped, result⟩ := Option.bind_eq_some_iff.mp read
  cases result
  obtain ⟨rest', greed', same⟩ := readGreed_alike alike rfl
  exact ⟨rest', by simp [Place.repeated, popped, greed'], same⟩

section Parts

variable (nested nested' : GroupReader) {bound : Nat}
variable (left_over : ∀ {place cs piece groups rest},
  nested place cs = some (piece, groups, rest) → ')' :: rest <:+ cs)
variable (inner : ∀ {place cs ds piece groups rest}, Alike r t cs ds →
  nested place cs = some (piece, groups, rest) → r.length < rest.length → ds.length < bound →
    ∃ rest', nested' place ds = some (piece, groups, rest') ∧ Alike r t rest rest')
include left_over inner

/-- The start of a group and the group itself are read alike. -/
theorem readOpening_group_alike {place : Place} {opening : Opening} {more : List Char}
    {piece : Piece} {groups : List (Option String)} (alike : Alike r t cs ds)
    (opened : readOpening flags cs = some (opening, more))
    (group : nested place more = some (piece, groups, rest)) (short : r.length < rest.length)
    (enough : ds.length < bound) :
    ∃ more', readOpening flags ds = some (opening, more') ∧
      ∃ rest', nested' place more' = some (piece, groups, rest') ∧ Alike r t rest rest' := by
  have taken := (suffix_of_cons (left_over group)).length_le
  obtain ⟨more', opened', inside⟩ := readOpening_alike alike opened (short.trans_le taken)
  have fewer := (suffix_of_readOpening opened').length_le
  exact ⟨more', opened', inner inside group short (fewer.trans_lt enough)⟩

/-- A part is read alike, unless what follows it is a brace with nothing in it up to the closing
parenthesis. -/
theorem readPart_alike {place after : Place}
    (alike : Alike r t cs ds) (read : readPart nested place cs = some (after, rest))
    (short : r.length < rest.length) (enough : ds.length ≤ bound) :
    (∃ rest', readPart nested' place ds = some (after, rest') ∧ Alike r t rest rest') ∨
      ∃ more, rest = '\x7b' :: more ∧ (skip after.flags more).length ≤ r.length + 1 := by
  have taken := (suffix_of_readPart left_over read).length_le
  unfold readPart at read
  split at read
  · next more =>
    obtain ⟨⟨opening, more'⟩, opened, result⟩ := Option.bind_eq_some_iff.mp read
    obtain ⟨ds, rfl, alike₁⟩ := alike.tail_of_ne (by decide)
    rw [List.length_cons] at enough
    left
    dsimp only at result
    split at result
    · cases result
      obtain ⟨rest', opened', same⟩ := readOpening_alike alike₁ opened short
      exact ⟨rest', by simp [readPart, opened'], same⟩
    · obtain ⟨⟨piece, groups, more₂⟩, group, result⟩ := Option.bind_eq_some_iff.mp result
      cases result
      obtain ⟨ds₁, opened', rest', group', same⟩ :=
        readOpening_group_alike nested nested' left_over inner alike₁ opened group short enough
      exact ⟨rest', by simp [readPart, opened', group'], same⟩
    · split at result
      · cases result
      · next fresh =>
        obtain ⟨⟨piece, groups, more₂⟩, group, result⟩ := Option.bind_eq_some_iff.mp result
        cases result
        obtain ⟨ds₁, opened', rest', group', same⟩ :=
          readOpening_group_alike nested nested' left_over inner alike₁ opened group short enough
        refine ⟨rest', ?_, same⟩
        simp only [readPart, opened', Option.bind_eq_bind, Option.bind_some, group']
        exact if_neg fresh
  · cases read
    obtain ⟨ds, rfl, alike₁⟩ := alike.tail_of_ne (by decide)
    exact .inl ⟨ds, rfl, alike₁⟩
  · next more =>
    obtain ⟨⟨negated, parts, more'⟩, opened, result⟩ := Option.bind_eq_some_iff.mp read
    obtain ⟨⟨part, more₂⟩, body, result⟩ := Option.bind_eq_some_iff.mp result
    cases result
    obtain ⟨ds, rfl, alike₁⟩ := alike.tail_of_ne (by decide)
    have left_over₂ := (suffix_of_readSetBody body).length_le
    rw [List.length_cons] at left_over₂
    obtain ⟨ds₁, opened', alike₂⟩ := readSetOpening_alike alike₁ opened (by omega)
    obtain ⟨rest', body', same⟩ := readSetBody_alike alike₂ body short (Nat.lt_succ_self _)
    exact .inl ⟨rest', by simp [readPart, opened', body'], same⟩
  · obtain ⟨ds, rfl, alike₁⟩ := alike.tail_of_ne (by decide)
    exact .inl (repeated_alike alike₁ read)
  · obtain ⟨ds, rfl, alike₁⟩ := alike.tail_of_ne (by decide)
    exact .inl (repeated_alike alike₁ read)
  · obtain ⟨ds, rfl, alike₁⟩ := alike.tail_of_ne (by decide)
    exact .inl (repeated_alike alike₁ read)
  · next more =>
    obtain ⟨⟨least, most, more'⟩, bounds, result⟩ := Option.bind_eq_some_iff.mp read
    obtain ⟨ds, rfl, alike₁⟩ := alike.tail_of_ne (by decide)
    have left_over₂ := (suffix_of_repeated result).length_le
    obtain ⟨ds₁, bounds', alike₂⟩ := readBounds_alike alike₁ bounds (short.trans_le left_over₂)
    obtain ⟨rest', result', same⟩ := repeated_alike alike₂ result
    exact .inl ⟨rest', by simp [readPart, bounds', result'], same⟩
  · next no_group no_branch no_set no_option no_star no_plus no_brace =>
    obtain ⟨⟨node, more⟩, primitive, result⟩ := Option.bind_eq_some_iff.mp read
    cases result
    rcases readPrimitive_alike alike primitive short with ⟨rest', primitive', same⟩ | stuck
    · refine .inl ⟨rest', ?_, same⟩
      rw [readPart, primitive']
      · rfl
      · exact alike.not_cons (by decide) no_group
      · exact alike.not_cons (by decide) no_branch
      · exact alike.not_cons (by decide) no_set
      · exact alike.not_cons (by decide) no_option
      · exact alike.not_cons (by decide) no_star
      · exact alike.not_cons (by decide) no_plus
      · exact alike.not_cons (by decide) no_brace
    · exact .inr stuck

end Parts

/-- A brace with nothing in it up to the closing parenthesis repeats nothing. -/
theorem length_lt_of_stuck {fuel : Nat} {place : Place} {more : List Char} {piece : Piece}
    {groups : List (Option String)} (stuck : (skip place.flags more).length ≤ r.length + 1)
    (read : readGroup fuel true place ('\x7b' :: more) = some (piece, groups, rest)) :
    rest.length < r.length := by
  cases fuel with
  | zero => cases read
  | succ fuel =>
    have next : skip place.flags ('\x7b' :: more) = '\x7b' :: more := by
      unfold skip
      split
      · exact skipIgnored_of_solid (by decide) (by decide)
      · rfl
    rw [readGroup, next] at read
    obtain ⟨⟨after, more'⟩, part, read⟩ := Option.bind_eq_some_iff.mp read
    obtain ⟨⟨least, most, more₂⟩, bounds, repeated⟩ := Option.bind_eq_some_iff.mp part
    have in_bounds := (suffix_of_readBounds bounds).length_le
    have repetition := (suffix_of_repeated repeated).length_le
    have left_over := (suffix_of_readGroup read).length_le
    rw [List.length_tail] at in_bounds
    rw [List.length_cons] at left_over
    omega

/-- A group goes on after a part. -/
theorem readGroup_of_readPart {fuel : Nat} {inner : Bool} {place after : Place} {c : Char}
    {text : List Char} (next : skip place.flags cs = c :: text) (other : c ≠ ')')
    (part : readPart (readGroup fuel true) place (c :: text) = some (after, rest)) :
    readGroup (fuel + 1) inner place cs = readGroup fuel inner after rest := by
  rw [readGroup, next]
  split
  · contradiction
  · next same =>
    cases same
    exact absurd rfl other
  · simp [part]

/-- The step over a part of a group that ends at the closing parenthesis or before it: the part is
read alike, and the reading goes on with texts that are alike. -/
theorem step_alike {fuel fuel' : Nat} {place after : Place} {c : Char} {text more : List Char}
    {piece : Piece} {groups : List (Option String)}
    (inner : ∀ {place cs ds piece groups rest}, Alike r t cs ds →
      readGroup fuel true place cs = some (piece, groups, rest) → r.length < rest.length →
        ds.length < fuel' →
          ∃ rest', readGroup fuel' true place ds = some (piece, groups, rest') ∧
            Alike r t rest rest')
    (alike : Alike r t cs ds) (next : skip place.flags cs = c :: text) (other : c ≠ ')')
    (part : readPart (readGroup fuel true) place (c :: text) = some (after, more))
    (read : readGroup fuel true after more = some (piece, groups, rest))
    (short : r.length ≤ rest.length) (enough : ds.length < fuel' + 1) :
    ∃ more', Alike r t more more' ∧ more'.length < fuel' ∧
      ∀ top, readGroup (fuel' + 1) top place ds = readGroup fuel' top after more' := by
  have left_over := (suffix_of_readGroup read).length_le
  have taken := (suffix_of_readPart suffix_of_readGroup part).length_le
  rw [List.length_cons] at left_over
  rw [List.tail_cons] at taken
  obtain ⟨text', next', inside⟩ := alike.skip_cons next (by omega)
  have fewer := length_lt_of_skip next'
  rcases readPart_alike (readGroup fuel true) (readGroup fuel' true) suffix_of_readGroup inner
    (inside.cons c) part (by omega) (by simp; omega) with ⟨more', part', same⟩ | ⟨more', rfl, stuck⟩
  · have taken' := (suffix_of_readPart suffix_of_readGroup part').length_le
    rw [List.tail_cons] at taken'
    exact ⟨more', same, by omega, fun top => readGroup_of_readPart next' other part'⟩
  · have := length_lt_of_stuck stuck read
    omega

/-- A group that ends before the closing parenthesis is read alike. -/
theorem readGroup_alike {fuel fuel' : Nat} {place : Place} {piece : Piece}
    {groups : List (Option String)} (alike : Alike r t cs ds)
    (read : readGroup fuel true place cs = some (piece, groups, rest))
    (short : r.length < rest.length) (enough : ds.length < fuel') :
    ∃ rest', readGroup fuel' true place ds = some (piece, groups, rest') ∧
      Alike r t rest rest' := by
  induction fuel generalizing place cs ds piece groups rest fuel' with
  | zero => cases read
  | succ fuel ih =>
    cases fuel' with
    | zero => cases enough
    | succ fuel' =>
      rw [readGroup] at read
      split at read
      · cases read
      · next more close =>
        cases read
        obtain ⟨ds', close', same⟩ := alike.skip_cons close short
        refine ⟨ds', ?_, same⟩
        rw [readGroup, close']
        rfl
      · next ended closed =>
        obtain ⟨⟨after, more⟩, part, read⟩ := Option.bind_eq_some_iff.mp read
        cases next : skip place.flags cs with
        | nil => exact absurd next ended
        | cons c text =>
          rw [next] at part
          obtain ⟨more', inside, fewer, goes_on⟩ := step_alike ih alike next
            (by rintro rfl; exact closed _ next) part read short.le enough
          rw [goes_on]
          exact ih inside read short fewer

/-- What the reader of a group gives where a text stops: the outermost group ends with the text,
another one with its closing parenthesis. -/
def ending (inner : Bool) (piece : Piece) (groups : List (Option String)) :
    List Char → Option (Piece × List (Option String) × List Char)
  | [] => if inner then none else some (piece, groups, [])
  | _ :: rest => if inner then some (piece, groups, rest) else none

/-- A group that ends with the closing parenthesis is the same in the other text, and ends where
that text stops. -/
theorem readGroup_of_close {fuel : Nat} (fuel' : Nat) (inner : Bool) {place : Place} {piece : Piece}
    {groups : List (Option String)} (alike : Alike r t cs ds)
    (read : readGroup fuel true place cs = some (piece, groups, rest))
    (ends : rest.length = r.length) (enough : ds.length < fuel') :
    readGroup fuel' inner place ds = ending inner piece groups t := by
  induction fuel generalizing place cs ds piece groups rest fuel' with
  | zero => cases read
  | succ fuel ih =>
    cases fuel' with
    | zero => cases enough
    | succ fuel' =>
      rw [readGroup] at read
      split at read
      · cases read
      · next more close =>
        cases read
        have skipped := skip_alike place.flags alike (by rw [close, List.length_cons]; omega)
        obtain ⟨stopped, stops⟩ := skipped.eq_of_length (by rw [close, List.length_cons, ends])
        rw [readGroup, stopped]
        cases stops <;> rfl
      · next ended closed =>
        obtain ⟨⟨after, more⟩, part, read⟩ := Option.bind_eq_some_iff.mp read
        cases next : skip place.flags cs with
        | nil => exact absurd next ended
        | cons c text =>
          rw [next] at part
          obtain ⟨more', inside, fewer, goes_on⟩ := step_alike readGroup_alike alike next
            (by rintro rfl; exact closed _ next) part read ends.ge enough
          rw [goes_on]
          exact ih _ inside read ends fewer

end Remap.Regex
