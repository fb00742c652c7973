import Remap.Proofs.Regex.Remainder

/-!
# Texts that are alike up to a closing parenthesis

A reader that stops before a closing parenthesis does not see what comes after it. So it reads the
same in another text that has the same characters up to there and then stops too: with its end, or
with a closing parenthesis that something else follows. Here are such texts, and the readers of
blanks, names and escapes; in each lemma the reader leaves more of the first text than what comes
after its closing parenthesis.
-/

namespace Remap.Regex

variable {r t cs ds rest : List Char} {flags : Flags}

/-- The end of a text, or a closing parenthesis. -/
inductive Stops : List Char → Prop
  | nil : Stops []
  | close (cs : List Char) : Stops (')' :: cs)

/-- Two texts that are the same up to a place where the first one has a closing parenthesis before
`r`, and the second one stops with `t`. -/
inductive Alike (r t : List Char) : List Char → List Char → Prop
  | stop (stops : Stops t) : Alike r t (')' :: r) t
  | cons (c : Char) {cs ds : List Char} (rest : Alike r t cs ds) : Alike r t (c :: cs) (c :: ds)

/-- What is taken before the closing parenthesis is the same in both texts. -/
theorem Alike.tail {c : Char} (alike : Alike r t (c :: cs) ds) (short : r.length < cs.length) :
    ∃ ds', ds = c :: ds' ∧ Alike r t cs ds' := by
  cases alike with
  | stop => exact absurd short (Nat.lt_irrefl _)
  | cons _ rest => exact ⟨_, rfl, rest⟩

/-- Another character than the closing parenthesis is the same in both texts. -/
theorem Alike.tail_of_ne {c : Char} (alike : Alike r t (c :: cs) ds) (other : c ≠ ')') :
    ∃ ds', ds = c :: ds' ∧ Alike r t cs ds' := by
  cases alike with
  | stop => exact absurd rfl other
  | cons _ rest => exact ⟨_, rfl, rest⟩

theorem Alike.length_lt (alike : Alike r t cs ds) : r.length < cs.length := by
  induction alike with
  | stop => exact Nat.lt_succ_self _
  | cons _ _ ih => exact Nat.lt_succ_of_lt ih

/-- When the first text is at the closing parenthesis, the second one stops. -/
theorem Alike.eq_of_length (alike : Alike r t cs ds) (ends : cs.length = r.length + 1) :
    ds = t ∧ Stops t := by
  cases alike with
  | stop stops => exact ⟨rfl, stops⟩
  | cons _ rest => exact absurd (Nat.succ.inj ends) rest.length_lt.ne'

/-- What the second text has besides a closing parenthesis, the first one has. -/
theorem Alike.tail_of_second {c : Char} (alike : Alike r t cs (c :: ds)) (other : c ≠ ')') :
    ∃ cs', cs = c :: cs' ∧ Alike r t cs' ds := by
  cases alike with
  | stop stops =>
    cases stops
    exact absurd rfl other
  | cons _ rest => exact ⟨_, rfl, rest⟩

/-- What the first text does not start with, the second one does not start with. -/
theorem Alike.not_cons {c : Char} (alike : Alike r t cs ds) (other : c ≠ ')')
    (none : ∀ more, cs = c :: more → False) (more : List Char) (same : ds = c :: more) : False := by
  subst same
  obtain ⟨cs, rfl, -⟩ := alike.tail_of_second other
  exact none _ rfl

/-- The same for two characters. -/
theorem Alike.not_cons_cons {c d : Char} (alike : Alike r t cs ds) (other : c ≠ ')')
    (other' : d ≠ ')') (none : ∀ more, cs = c :: d :: more → False) (more : List Char)
    (same : ds = c :: d :: more) : False := by
  subst same
  obtain ⟨cs, rfl, inside⟩ := alike.tail_of_second other
  obtain ⟨cs, rfl, -⟩ := inside.tail_of_second other'
  exact none _ rfl

theorem skipComment_alike (alike : Alike r t cs ds) (short : r.length < (skipComment cs).length) :
    Alike r t (skipComment cs) (skipComment ds) := by
  induction alike with
  | stop =>
    have past : skipComment (')' :: r) = skipComment r := rfl
    rw [past] at short
    exact absurd short (Nat.not_lt.mpr (skipComment_suffix r).length_le)
  | cons c rest ih =>
    simp only [skipComment] at short ⊢
    split
    · exact rest
    · next other =>
      simp only [other] at short
      exact ih short

theorem skipIgnored_of_solid {c : Char} (solid : Text.isBlank c = false) (other : c ≠ '#') :
    skipIgnored (c :: cs) = c :: cs := by
  simp [skipIgnored, solid, other]

theorem Stops.skipIgnored_eq (stops : Stops t) : skipIgnored t = t := by
  cases stops with
  | nil => rw [skipIgnored]
  | close cs => exact skipIgnored_of_solid (by decide) (by decide)

theorem skipIgnored_alike (alike : Alike r t cs ds) (short : r.length < (skipIgnored cs).length) :
    Alike r t (skipIgnored cs) (skipIgnored ds) := by
  fun_induction skipIgnored cs generalizing ds with
  | case1 => cases alike
  | case2 c cs blank ih =>
    obtain ⟨ds, rfl, after⟩ := alike.tail (short.trans_le (skipIgnored_suffix cs).length_le)
    rw [skipIgnored]
    simpa [blank] using ih after short
  | case3 c cs solid hash ih =>
    obtain ⟨ds, rfl, after⟩ := alike.tail (short.trans_le
      ((skipIgnored_suffix _).trans (skipComment_suffix cs)).length_le)
    have inside := skipComment_alike after (short.trans_le (skipIgnored_suffix _).length_le)
    rw [skipIgnored]
    simpa [solid, hash] using ih inside short
  | case4 c cs solid other =>
    cases alike with
    | stop stops =>
      rw [stops.skipIgnored_eq]
      exact .stop stops
    | cons _ after =>
      rw [skipIgnored]
      simpa [solid, other] using after.cons c

theorem skip_alike (flags : Flags) (alike : Alike r t cs ds)
    (short : r.length < (skip flags cs).length) : Alike r t (skip flags cs) (skip flags ds) := by
  unfold skip at short ⊢
  split
  · next ignores =>
    simp only [ignores] at short
    exact skipIgnored_alike alike short
  · exact alike

theorem Alike.skip_cons {c : Char} (alike : Alike r t cs ds) (next : skip flags cs = c :: rest)
    (short : r.length < rest.length) : ∃ ds', skip flags ds = c :: ds' ∧ Alike r t rest ds' := by
  have inside : Alike r t (c :: rest) (skip flags ds) :=
    next ▸ skip_alike flags alike (by rw [next]; exact Nat.lt_succ_of_lt short)
  exact inside.tail short

theorem length_lt_of_skip {c : Char} (next : skip flags cs = c :: rest) : rest.length < cs.length :=
  (suffix_of_skip next).length_le

/-- A character that comes twice once blanks are skipped comes twice in both texts. -/
theorem Alike.skip_twice {c : Char} (alike : Alike r t cs ds)
    (next : skip flags cs = c :: c :: rest) (other : c ≠ ')') (short : r.length < rest.length) :
    ∃ ds', skip flags ds = c :: c :: ds' ∧ Alike r t rest ds' ∧ ds'.length + 1 < ds.length := by
  obtain ⟨ds', next', inside⟩ := alike.skip_cons next (Nat.lt_succ_of_lt short)
  obtain ⟨ds'', rfl, inside'⟩ := inside.tail_of_ne other
  exact ⟨ds'', next', inside', length_lt_of_skip next'⟩

theorem dropWhile_alike {p : Char → Bool} (alike : Alike r t cs ds)
    (short : p ')' = true → r.length < (cs.dropWhile p).length) :
    Alike r t (cs.dropWhile p) (ds.dropWhile p) ∧ cs.takeWhile p = ds.takeWhile p := by
  induction alike with
  | stop stops =>
    cases passed : p ')' with
    | true =>
      have short := short passed
      rw [List.dropWhile_cons_of_pos passed] at short
      exact absurd short (Nat.not_lt.mpr (List.dropWhile_suffix p).length_le)
    | false =>
      have holds : ¬p ')' = true := by simp [passed]
      rw [List.dropWhile_cons_of_neg holds, List.takeWhile_cons_of_neg holds]
      cases stops with
      | nil => exact ⟨.stop .nil, rfl⟩
      | close cs =>
        rw [List.dropWhile_cons_of_neg holds, List.takeWhile_cons_of_neg holds]
        exact ⟨.stop (.close cs), rfl⟩
  | cons c rest ih =>
    cases passed : p c with
    | true =>
      rw [List.dropWhile_cons_of_pos passed] at short
      simp only [List.dropWhile_cons_of_pos passed, List.takeWhile_cons_of_pos passed]
      exact ⟨(ih short).1, by rw [(ih short).2]⟩
    | false =>
      have holds : ¬p c = true := by simp [passed]
      rw [List.dropWhile_cons_of_neg holds, List.dropWhile_cons_of_neg holds,
        List.takeWhile_cons_of_neg holds, List.takeWhile_cons_of_neg holds]
      exact ⟨rest.cons c, rfl⟩

theorem not_isBlank_close (blank : Text.isBlank ')' = true) : False := by
  revert blank
  decide

theorem dropBlanks_alike (alike : Alike r t cs ds) :
    Alike r t (cs.dropWhile Text.isBlank) (ds.dropWhile Text.isBlank) :=
  (dropWhile_alike alike fun blank => (not_isBlank_close blank).elim).1

theorem head?_alike {c : Char} (alike : Alike r t cs ds) (other : c ≠ ')') :
    cs.head? = some c ↔ ds.head? = some c := by
  cases alike with
  | stop stops => cases stops <;> simp [other.symm]
  | cons => rfl

/-! ## Escapes -/

theorem readHexDigits_alike {count n m : Nat} (alike : Alike r t cs ds)
    (read : readHexDigits flags count n cs = some (m, rest)) (short : r.length < rest.length) :
    ∃ rest', readHexDigits flags count n ds = some (m, rest') ∧ Alike r t rest rest' := by
  fun_induction readHexDigits flags count n cs generalizing ds with
  | case1 n cs =>
    cases read
    exact ⟨ds, rfl, alike⟩
  | case2 => cases read
  | case3 => cases read
  | case4 count n c after d digit ih =>
    have inside := suffix_of_readHexDigits read
    obtain ⟨ds, rfl, alike'⟩ := alike.tail
      (short.trans_le (inside.trans (skip_suffix flags after)).length_le)
    obtain ⟨rest', read', same⟩ := ih
      (skip_alike flags alike' (short.trans_le inside.length_le)) read
    exact ⟨rest', by rw [readHexDigits, digit]; exact read', same⟩

theorem readHexBraced_alike {fuel fuel' n : Nat} {got : Option Nat} (alike : Alike r t cs ds)
    (read : readHexBraced flags fuel got cs = some (n, rest)) (short : r.length < rest.length)
    (enough : ds.length < fuel') :
    ∃ rest', readHexBraced flags fuel' got ds = some (n, rest') ∧ Alike r t rest rest' := by
  fun_induction readHexBraced flags fuel got cs generalizing ds fuel' with
  | case1 => cases read
  | case2 => cases read
  | case3 fuel got cs after close =>
    obtain ⟨m, known, result⟩ := Option.map_eq_some_iff.mp read
    cases result
    obtain ⟨ds', close', alike'⟩ :=
      alike.skip_cons close (short.trans_le (skip_suffix flags after).length_le)
    cases fuel' with
    | zero => cases enough
    | succ fuel' =>
      refine ⟨skip flags ds', ?_, skip_alike flags alike' short⟩
      simp only [readHexBraced, close', known, Option.map_some]
  | case4 => cases read
  | case5 fuel got cs c after other next d digit ih =>
    obtain ⟨ds', next', alike'⟩ :=
      alike.skip_cons next (short.trans_le (suffix_of_readHexBraced read).length_le)
    cases fuel' with
    | zero => cases enough
    | succ fuel' =>
      obtain ⟨rest', read', same⟩ := ih alike' read
        ((length_lt_of_skip next').trans_le (Nat.le_of_lt_succ enough))
      refine ⟨rest', ?_, same⟩
      simp only [readHexBraced, next', digit, read']

theorem readBraced_alike {fuel fuel' : Nat} {got : List Char} {name : String}
    (alike : Alike r t cs ds) (read : readBraced flags fuel got cs = some (name, rest))
    (short : r.length < rest.length) (enough : ds.length < fuel') :
    ∃ rest', readBraced flags fuel' got ds = some (name, rest') ∧ Alike r t rest rest' := by
  fun_induction readBraced flags fuel got cs generalizing ds fuel' with
  | case1 => cases read
  | case2 => cases read
  | case3 fuel got cs after close =>
    cases read
    obtain ⟨ds', close', alike'⟩ := alike.skip_cons close short
    cases fuel' with
    | zero => cases enough
    | succ fuel' => exact ⟨ds', by simp only [readBraced, close'], alike'⟩
  | case4 fuel got cs c after other next ih =>
    obtain ⟨ds', next', alike'⟩ :=
      alike.skip_cons next (short.trans_le (suffix_of_readBraced read).length_le)
    cases fuel' with
    | zero => cases enough
    | succ fuel' =>
      obtain ⟨rest', read', same⟩ := ih alike' read
        ((length_lt_of_skip next').trans_le (Nat.le_of_lt_succ enough))
      refine ⟨rest', ?_, same⟩
      simp only [readBraced, next', read']

theorem readHex_alike {digits : Nat} {e : Escape} (alike : Alike r t cs ds)
    (some_digit : 0 < digits) (read : readHex flags digits cs = some (e, rest))
    (short : r.length < rest.length) :
    ∃ rest', readHex flags digits ds = some (e, rest') ∧ Alike r t rest rest' := by
  unfold readHex at read
  split at read
  · cases read
  · next after brace =>
    obtain ⟨⟨n, rest'⟩, braced, read⟩ := Option.bind_eq_some_iff.mp read
    dsimp only at read
    split at read
    · next scalar =>
      cases read
      obtain ⟨ds', brace', alike'⟩ :=
        alike.skip_cons brace (short.trans_le (suffix_of_readHexBraced braced).length_le)
      obtain ⟨rest', braced', same⟩ := readHexBraced_alike alike' braced short (Nat.lt_succ_self _)
      refine ⟨rest', ?_, same⟩
      simp [readHex, brace', braced', scalar]
    · cases read
  · next other brace =>
    obtain ⟨⟨n, rest'⟩, fixed, read⟩ := Option.bind_eq_some_iff.mp read
    dsimp only at read
    split at read
    · next scalar =>
      cases read
      have inside := skip_alike flags alike
        (short.trans_le (suffix_of_readHexDigits fixed).length_le)
      obtain ⟨rest', fixed', same⟩ := readHexDigits_alike inside fixed short
      refine ⟨rest', ?_, same⟩
      unfold readHex
      generalize skip flags cs = text at *
      generalize skip flags ds = text' at *
      cases inside with
      | stop =>
        cases digits with
        | zero => cases some_digit
        | succ digits => cases fixed
      | cons c after =>
        split
        · contradiction
        · next brace' =>
          cases brace'
          exact absurd rfl (brace _)
        · simp [fixed', scalar]
    · cases read

theorem readPropertyName_alike {property : CharSet × Bool} (alike : Alike r t cs ds)
    (read : readPropertyName flags cs = some (property, rest)) (short : r.length < rest.length) :
    ∃ rest', readPropertyName flags ds = some (property, rest') ∧ Alike r t rest rest' := by
  unfold readPropertyName at read
  split at read
  · cases read
  · next more brace =>
    obtain ⟨⟨text, after⟩, braced, read⟩ := Option.bind_eq_some_iff.mp read
    obtain ⟨found, known, read⟩ := Option.bind_eq_some_iff.mp read
    cases read
    obtain ⟨ds', brace', alike'⟩ :=
      alike.skip_cons brace (short.trans_le (suffix_of_readBraced braced).length_le)
    obtain ⟨rest', braced', same⟩ := readBraced_alike alike' braced short (Nat.lt_succ_self _)
    refine ⟨rest', ?_, same⟩
    simp [readPropertyName, brace', braced', known]
  · next c more other next =>
    split at read
    · cases read
    · next letter =>
      obtain ⟨set, known, read⟩ := Option.bind_eq_some_iff.mp read
      cases read
      obtain ⟨ds', next', alike'⟩ :=
        alike.skip_cons next (short.trans_le (skip_suffix flags more).length_le)
      refine ⟨skip flags ds', ?_, skip_alike flags alike' short⟩
      simp only [readPropertyName, next', letter]
      rw [known]
      rfl

theorem readProperty_alike {negated : Bool} {e : Escape} (alike : Alike r t cs ds)
    (read : readProperty flags negated cs = some (e, rest)) (short : r.length < rest.length) :
    ∃ rest', readProperty flags negated ds = some (e, rest') ∧ Alike r t rest rest' := by
  obtain ⟨⟨property, after⟩, named, read⟩ := Option.bind_eq_some_iff.mp read
  dsimp only at read
  split at read
  · next unicode =>
    obtain ⟨set, finished, read⟩ := Option.bind_eq_some_iff.mp read
    cases read
    obtain ⟨rest', named', same⟩ := readPropertyName_alike alike named short
    exact ⟨rest', by simp [readProperty, named', unicode, finished], same⟩
  · cases read

theorem readConditionName_alike {fuel fuel' : Nat} {got : List Char} {name : String}
    (alike : Alike r t cs ds) (read : readConditionName flags fuel got cs = some (name, rest))
    (short : r.length < rest.length) (enough : ds.length < fuel') :
    ∃ rest', readConditionName flags fuel' got ds = some (name, rest') ∧ Alike r t rest rest' := by
  fun_induction readConditionName flags fuel got cs generalizing ds fuel' with
  | case1 => cases read
  | case2 fuel got after =>
    cases read
    obtain ⟨ds', rfl, alike'⟩ := alike.tail short
    cases fuel' with
    | zero => cases enough
    | succ fuel' => exact ⟨ds', rfl, alike'⟩
  | case3 fuel got c after other letter ih =>
    have inside := suffix_of_readConditionName read
    obtain ⟨ds', rfl, alike'⟩ :=
      alike.tail (short.trans_le (inside.trans (skip_suffix flags after)).length_le)
    cases fuel' with
    | zero => cases enough
    | succ fuel' =>
      obtain ⟨rest', read', same⟩ := ih
        (skip_alike flags alike' (short.trans_le inside.length_le)) read
        ((skip_suffix flags ds').length_le.trans_lt (Nat.lt_of_succ_lt_succ enough))
      refine ⟨rest', ?_, same⟩
      simp only [readConditionName, letter, read']
      rfl
  | case4 => cases read
  | case5 => cases read

/-- A word condition is read alike, unless what follows it is a brace with nothing in it up to the
closing parenthesis. -/
theorem readWordCondition_alike {e : Escape} (alike : Alike r t cs ds)
    (read : readWordCondition flags cs = some (e, rest)) (short : r.length < rest.length) :
    (∃ rest', readWordCondition flags ds = some (e, rest') ∧ Alike r t rest rest') ∨
      ∃ l more, e = .look l ∧ rest = '\x7b' :: more ∧ (skip flags more).length ≤ r.length + 1 := by
  unfold readWordCondition at read
  dsimp only at read
  split at read
  · next more =>
    split at read
    · cases read
    · next c after next =>
      split at read
      · next letter =>
        obtain ⟨⟨name, after'⟩, named, read⟩ := Option.bind_eq_some_iff.mp read
        have ends : after' = rest := by
          dsimp only at read
          split at read <;> cases read <;> rfl
        subst ends
        have inside := (suffix_of_readConditionName named).length_le
        obtain ⟨ds, rfl, alike'⟩ := alike.tail
          (short.trans_le (inside.trans (suffix_of_skip next).length_le))
        have skipped : Alike r t (c :: after) (skip flags ds) :=
          next ▸ skip_alike flags alike' (short.trans_le (next ▸ inside))
        obtain ⟨ds', next', alike''⟩ := skipped.tail_of_ne (by rintro rfl; cases letter)
        obtain ⟨rest', named', same⟩ :=
          readConditionName_alike (alike''.cons c) named short (Nat.lt_succ_self _)
        refine .inl ⟨rest', ?_, same⟩
        simp only [readWordCondition, next', letter, if_true]
        rw [show ds'.length + 2 = (c :: ds').length + 1 from rfl, named']
        dsimp only [Option.bind_eq_bind, Option.bind_some] at read ⊢
        split at read <;> cases read <;> rfl
      · next letter =>
        cases read
        rcases Nat.lt_or_ge (r.length + 1) (skip flags more).length with far | near
        · left
          obtain ⟨ds, rfl, alike'⟩ := alike.tail
            (Nat.lt_of_succ_lt (far.trans_le (skip_suffix flags more).length_le))
          rw [next] at far
          obtain ⟨ds', next', -⟩ := alike'.skip_cons next (Nat.lt_of_succ_lt_succ far)
          refine ⟨'\x7b' :: ds, ?_, alike⟩
          simp only [readWordCondition, next', letter]
          rfl
        · exact .inr ⟨_, more, rfl, rfl, near⟩
  · next other =>
    cases read
    refine .inl ⟨ds, ?_, alike⟩
    unfold readWordCondition
    split
    · next brace =>
      cases alike with
      | stop stops => cases stops
      | cons => exact absurd rfl (other _)
    · rfl

theorem readEscape_alike {e : Escape} (alike : Alike r t cs ds)
    (read : readEscape flags cs = some (e, rest)) (short : r.length < rest.length) :
    (∃ rest', readEscape flags ds = some (e, rest') ∧ Alike r t rest rest') ∨
      ∃ l more, e = .look l ∧ rest = '\x7b' :: more ∧ (skip flags more).length ≤ r.length + 1 := by
  cases cs with
  | nil => cases read
  | cons c cs =>
    obtain ⟨ds, rfl, after⟩ := alike.tail (short.trans_le (suffix_of_readEscape read).length_le)
    unfold readEscape at read ⊢
    dsimp only at read ⊢
    split at read
    · cases read
    next digit =>
    rw [if_neg digit]
    split at read
    · next hex =>
      rw [if_pos hex]
      exact .inl (readHex_alike after (by decide) read short)
    next hex =>
    rw [if_neg hex]
    split at read
    · next hex' =>
      rw [if_pos hex']
      exact .inl (readHex_alike after (by decide) read short)
    next hex' =>
    rw [if_neg hex']
    split at read
    · next hex'' =>
      rw [if_pos hex'']
      exact .inl (readHex_alike after (by decide) read short)
    next hex'' =>
    rw [if_neg hex'']
    split at read
    · next property =>
      rw [if_pos property]
      exact .inl (readProperty_alike after read short)
    next property =>
    rw [if_neg property]
    split at read
    · cases read
      exact .inl ⟨ds, rfl, after⟩
    split at read
    case h_9 => exact readWordCondition_alike after read short
    case h_13 =>
      split at read
      · next mark =>
        cases read
        rw [if_pos mark]
        exact .inl ⟨ds, rfl, after⟩
      · cases read
    all_goals
      cases read
      exact .inl ⟨ds, rfl, after⟩

end Remap.Regex
