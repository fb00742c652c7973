import Remap.Proofs.Regex.Alike

/-!
# Classes in texts that are alike

A class ends with a bracket. So whatever is read inside its brackets has something else than the
closing parenthesis after it, or the class reads past the parenthesis.
-/

namespace Remap.Regex

variable {r t cs ds rest : List Char} {flags : Flags}

theorem readSetName_alike {s : CharSet} (alike : Alike r t cs ds)
    (read : readSetName cs = some (s, rest)) (short : r.length < rest.length) :
    ∃ rest', readSetName ds = some (s, rest') ∧ Alike r t rest rest' := by
  unfold readSetName at read
  split at read
  · next after colon =>
    obtain ⟨set, known, read⟩ := Option.bind_eq_some_iff.mp read
    cases read
    obtain ⟨inside, name⟩ := @dropWhile_alike _ _ _ _ (· != ':') alike
      (fun _ => by rw [colon]; exact Nat.lt_succ_of_lt (Nat.lt_succ_of_lt short))
    rw [colon] at inside
    rw [name] at known
    obtain ⟨ds', colon', inside'⟩ := inside.tail_of_ne (by decide)
    obtain ⟨rest', rfl, same⟩ := inside'.tail_of_ne (by decide)
    exact ⟨rest', by simp [readSetName, colon', known], same⟩
  · cases read

theorem readNamedSet_alike {s : CharSet} {negated : Bool} (alike : Alike r t cs ds)
    (read : readNamedSet cs = some (s, negated, rest)) (short : r.length < rest.length) :
    ∃ rest', readNamedSet ds = some (s, negated, rest') ∧ Alike r t rest rest' := by
  unfold readNamedSet at read
  split at read
  · obtain ⟨⟨set, after⟩, named, read⟩ := Option.bind_eq_some_iff.mp read
    cases read
    obtain ⟨ds', rfl, inside⟩ := alike.tail_of_ne (by decide)
    obtain ⟨ds'', rfl, inside'⟩ := inside.tail_of_ne (by decide)
    obtain ⟨rest', named', same⟩ := readSetName_alike inside' named short
    exact ⟨rest', by simp [readNamedSet, named'], same⟩
  · next after other =>
    obtain ⟨⟨set, after⟩, named, read⟩ := Option.bind_eq_some_iff.mp read
    cases read
    obtain ⟨ds', rfl, inside⟩ := alike.tail_of_ne (by decide)
    obtain ⟨rest', named', same⟩ := readSetName_alike inside named short
    refine ⟨rest', ?_, same⟩
    unfold readNamedSet
    split
    · next caret =>
      cases caret
      obtain ⟨after', rfl, -⟩ := inside.tail_of_second (by decide)
      exact absurd rfl (other _)
    · next same =>
      cases same
      simp [named']
    · next colon =>
      exact absurd rfl (colon _)
  · cases read

/-- No class has a closing parenthesis in its name. -/
theorem close_not_mem_of_named? {name : List Char} {s : CharSet}
    (named : CharSet.named? (String.ofList name) = some s) : ')' ∉ name := by
  unfold CharSet.named? at named
  split at named
  case h_15 => cases named
  all_goals
    next same =>
      rw [← String.toList_inj, String.toList_ofList] at same
      rw [same]
      decide

/-- A name without a closing parenthesis, with what follows it, is the same in both texts. -/
theorem name_alike {p : Char → Bool} (alike : Alike r t cs ds) (any : p ')' = true)
    (close : ')' ∉ ds.takeWhile p) (ended : ds.dropWhile p ≠ []) :
    Alike r t (cs.dropWhile p) (ds.dropWhile p) ∧ cs.takeWhile p = ds.takeWhile p := by
  induction alike with
  | stop stops =>
    cases stops with
    | nil => exact absurd rfl ended
    | close =>
      rw [List.takeWhile_cons_of_pos any] at close
      exact absurd List.mem_cons_self close
  | cons c rest ih =>
    cases letter : p c with
    | true =>
      rw [List.takeWhile_cons_of_pos letter] at close
      rw [List.dropWhile_cons_of_pos letter] at ended
      simp only [List.dropWhile_cons_of_pos letter, List.takeWhile_cons_of_pos letter]
      have after := ih (fun inside => close (List.mem_cons_of_mem _ inside)) ended
      exact ⟨after.1, by rw [after.2]⟩
    | false =>
      have other : ¬p c = true := by simp [letter]
      rw [List.dropWhile_cons_of_neg other, List.dropWhile_cons_of_neg other,
        List.takeWhile_cons_of_neg other, List.takeWhile_cons_of_neg other]
      exact ⟨rest.cons c, rfl⟩

theorem readSetName_eq_none (alike : Alike r t cs ds) (read : readSetName cs = none) :
    readSetName ds = none := by
  rw [Option.eq_none_iff_forall_ne_some]
  rintro ⟨s, rest⟩ read'
  unfold readSetName at read'
  split at read'
  · next after colon =>
    obtain ⟨set, known, read'⟩ := Option.bind_eq_some_iff.mp read'
    obtain ⟨inside, name⟩ := name_alike alike rfl (close_not_mem_of_named? known) (by simp [colon])
    rw [colon] at inside
    obtain ⟨cs', colon', inside'⟩ := inside.tail_of_second (by decide)
    obtain ⟨cs'', rfl, -⟩ := inside'.tail_of_second (by decide)
    simp [readSetName, colon', name, known] at read
  · cases read'

theorem readNamedSet_eq_none (alike : Alike r t cs ds) (read : readNamedSet cs = none) :
    readNamedSet ds = none := by
  rw [Option.eq_none_iff_forall_ne_some]
  rintro ⟨s, negated, rest⟩ read'
  unfold readNamedSet at read'
  split at read'
  · obtain ⟨⟨set, after⟩, named, -⟩ := Option.bind_eq_some_iff.mp read'
    obtain ⟨cs, rfl, inside⟩ := alike.tail_of_second (by decide)
    obtain ⟨cs, rfl, inside'⟩ := inside.tail_of_second (by decide)
    have unnamed : readSetName cs = none := by
      cases found : readSetName cs with
      | none => rfl
      | some => simp [readNamedSet, found] at read
    rw [readSetName_eq_none inside' unnamed] at named
    cases named
  · next more other =>
    obtain ⟨⟨set, after⟩, named, -⟩ := Option.bind_eq_some_iff.mp read'
    obtain ⟨cs, rfl, inside⟩ := alike.tail_of_second (by decide)
    have unnamed : readSetName cs = none := by
      unfold readNamedSet at read
      split at read
      · next caret =>
        cases caret
        obtain ⟨more', rfl, -⟩ := inside.tail_of_ne (by decide)
        exact absurd rfl (other _)
      · next same =>
        cases same
        cases found : readSetName cs with
        | none => rfl
        | some => simp [found] at read
      · next colon => exact absurd rfl (colon _)
    rw [readSetName_eq_none inside unnamed] at named
    cases named
  · cases read'

theorem readSetItem_alike {e : Escape} (alike : Alike r t cs ds)
    (read : readSetItem flags cs = some (e, rest)) (short : r.length < rest.length) :
    (∃ rest', readSetItem flags ds = some (e, rest') ∧ Alike r t rest rest') ∨
      ∃ l, e = .look l := by
  unfold readSetItem at read
  split at read
  · cases read
  · next more =>
    obtain ⟨ds, rfl, inside⟩ := alike.tail_of_ne (by decide)
    rcases readEscape_alike inside read short with read' | ⟨l, -, rfl, -⟩
    · exact .inl read'
    · exact .inr ⟨l, rfl⟩
  · next c more escape =>
    cases read
    obtain ⟨ds, rfl, inside⟩ := alike.tail short
    refine .inl ⟨ds, ?_, inside⟩
    rw [readSetItem]
    exact escape

theorem peekAfter_alike {c : Char} (alike : Alike r t cs ds) (other : c ≠ ')') :
    peekAfter flags cs = some c ↔ peekAfter flags ds = some c := by
  unfold peekAfter
  split
  · have inside := dropBlanks_alike alike
    generalize cs.dropWhile Text.isBlank = text at inside ⊢
    generalize ds.dropWhile Text.isBlank = text' at inside ⊢
    cases inside with
    | stop stops => cases stops <;> simp [other.symm]
    | cons first rest =>
      rcases eq_or_ne first '#' with rfl | plain
      · exact head?_alike (dropBlanks_alike rest) other
      · simp [plain]
  · exact head?_alike alike other

theorem rangeOf?_eq_some {first second : Escape} {part : SetPart}
    (range : rangeOf? flags first second = some part) :
    (∀ l, first ≠ .look l) ∧ ∀ l, second ≠ .look l := by
  unfold rangeOf? at range
  split at range
  · exact ⟨nofun, nofun⟩
  · cases range

/-- A set part is read alike if something else than the closing parenthesis follows it. -/
theorem readSetRange_alike {part : SetPart} (alike : Alike r t cs ds)
    (read : readSetRange flags cs = some (part, rest)) (short : r.length + 1 < rest.length) :
    ∃ rest', readSetRange flags ds = some (part, rest') ∧ Alike r t rest rest' := by
  unfold readSetRange at read
  obtain ⟨⟨first, after⟩, item, read⟩ := Option.bind_eq_some_iff.mp read
  dsimp only at read
  split at read
  · cases read
  · next more hyphen =>
    have inside := (suffix_of_cons (suffix_of_skip hyphen)).length_le
    split at read
    · next ended =>
      obtain ⟨single, known, read⟩ := Option.bind_eq_some_iff.mp read
      cases read
      have far : r.length < more.length := Nat.lt_of_succ_lt_succ short
      rcases readSetItem_alike alike item (far.trans_le inside) with ⟨ds', item', after'⟩ | ⟨l, rfl⟩
      · obtain ⟨ds'', hyphen', more'⟩ := after'.skip_cons hyphen far
        refine ⟨'-' :: ds'', ?_, more'.cons _⟩
        simp only [Bool.or_eq_true, beq_iff_eq, peekAfter_alike more' (show ']' ≠ ')' by decide),
          peekAfter_alike more' (show '-' ≠ ')' by decide)] at ended
        simp [readSetRange, item', hyphen', ended, known]
      · cases known
    · next range =>
      obtain ⟨⟨second, after'⟩, item', read⟩ := Option.bind_eq_some_iff.mp read
      obtain ⟨single, known, read⟩ := Option.bind_eq_some_iff.mp read
      cases read
      dsimp only at short
      have no_look := rangeOf?_eq_some known
      have taken := ((suffix_of_readSetItem item').trans (List.tail_suffix _)).length_le
      have skipped := (skip_suffix flags more).length_le
      rcases readSetItem_alike alike item (by omega) with ⟨ds', first', alike'⟩ | ⟨l, rfl⟩
      · obtain ⟨ds'', hyphen', more'⟩ := alike'.skip_cons hyphen (by omega)
        rcases readSetItem_alike (skip_alike flags more' (by omega)) item' (by omega) with
          ⟨rest', second', same⟩ | ⟨l, rfl⟩
        · refine ⟨rest', ?_, same⟩
          simp only [Bool.or_eq_true, beq_iff_eq, peekAfter_alike more' (show ']' ≠ ')' by decide),
            peekAfter_alike more' (show '-' ≠ ')' by decide)] at range
          simp [readSetRange, first', hyphen', range, second', known]
        · exact absurd rfl (no_look.2 l)
      · exact absurd rfl (no_look.1 l)
  · next text some_text no_hyphen =>
    obtain ⟨single, known, read⟩ := Option.bind_eq_some_iff.mp read
    cases read
    have inside := (skip_suffix flags after).length_le
    rcases readSetItem_alike alike item (by omega) with ⟨ds', item', after'⟩ | ⟨l, rfl⟩
    · have skipped := skip_alike flags after' (by omega)
      refine ⟨skip flags ds', ?_, skipped⟩
      cases next : skip flags after with
      | nil => exact absurd next some_text
      | cons c more =>
        rw [next] at short
        obtain ⟨ds'', next', -⟩ := after'.skip_cons next (Nat.lt_of_succ_lt_succ short)
        simp only [readSetRange, item', next', Option.bind_eq_bind, Option.bind_some]
        split
        · contradiction
        · next same =>
          cases same
          exact absurd next (no_hyphen _)
        · simp [known]
    · cases known

theorem takeHyphens_alike {fuel fuel' : Nat} {got parts : List SetPart} (alike : Alike r t cs ds)
    (read : takeHyphens flags fuel got cs = some (parts, rest)) (short : r.length + 1 < rest.length)
    (enough : ds.length < fuel') :
    ∃ rest', takeHyphens flags fuel' got ds = some (parts, rest') ∧ Alike r t rest rest' := by
  fun_induction takeHyphens flags fuel got cs generalizing ds fuel' with
  | case1 => cases read
  | case2 => cases read
  | case3 fuel got more ih =>
    have inside := (suffix_of_takeHyphens read).length_le
    have skipped := (skip_suffix flags more).length_le
    obtain ⟨ds, rfl, after⟩ := alike.tail (by omega)
    cases fuel' with
    | zero => cases enough
    | succ fuel' =>
      exact ih (skip_alike flags after (by omega)) read
        ((skip_suffix flags ds).length_le.trans_lt (Nat.lt_of_succ_lt_succ enough))
  | case4 fuel got text some_text no_hyphen =>
    cases read
    cases rest with
    | nil => exact absurd rfl some_text
    | cons c more =>
      obtain ⟨ds, rfl, after⟩ := alike.tail (Nat.lt_of_succ_lt_succ short)
      cases fuel' with
      | zero => cases enough
      | succ fuel' =>
        refine ⟨c :: ds, ?_, alike⟩
        unfold takeHyphens
        split
        · contradiction
        · next same =>
          cases same
          exact absurd rfl (no_hyphen _)
        · rfl

theorem readNegation_alike {sign : Bool} {text : List Char} (alike : Alike r t cs ds)
    (read : readNegation flags cs = (sign, text)) (short : r.length < text.length) :
    ∃ text', readNegation flags ds = (sign, text') ∧ Alike r t text text' := by
  unfold readNegation at read
  split at read
  · next more =>
    cases read
    obtain ⟨ds, rfl, after⟩ := alike.tail_of_ne (by decide)
    exact ⟨skip flags ds, rfl, skip_alike flags after short⟩
  · next other =>
    cases read
    refine ⟨ds, ?_, alike⟩
    unfold readNegation
    split
    · next more =>
      obtain ⟨cs, rfl, -⟩ := alike.tail_of_second (by decide)
      exact absurd rfl (other _)
    · rfl

theorem readSetOpening_alike {negated : Bool} {parts : List SetPart} (alike : Alike r t cs ds)
    (read : readSetOpening flags cs = some (negated, parts, rest))
    (short : r.length + 1 < rest.length) :
    ∃ rest', readSetOpening flags ds = some (negated, parts, rest') ∧ Alike r t rest rest' := by
  have caret := readNegation_suffix flags (skip flags cs)
  unfold readSetOpening at read
  cases signed : readNegation flags (skip flags cs) with
  | mk sign text =>
    rw [signed] at read caret
    obtain ⟨⟨got, after⟩, hyphens, read⟩ := Option.bind_eq_some_iff.mp read
    have taken := ((suffix_of_takeHyphens hyphens).trans caret).length_le
    have hyphens_taken := (suffix_of_takeHyphens hyphens).length_le
    -- both texts are alike up to where the hyphens end
    have opened (far : r.length + 1 < after.length) :
        ∃ text', readNegation flags (skip flags ds) = (sign, text') ∧
          ∃ after', takeHyphens flags (text'.length + 1) [] text' = some (got, after') ∧
            Alike r t after after' := by
      obtain ⟨text', signed', inside⟩ :=
        readNegation_alike (skip_alike flags alike (by omega)) signed (by omega)
      exact ⟨text', signed', takeHyphens_alike inside hyphens far (Nat.lt_succ_self _)⟩
    dsimp only at read
    split at read
    · next bracket =>
      split at read
      · cases read
      · next some_text =>
        cases read
        have far := (skip_suffix flags bracket).length_le
        obtain ⟨text', signed', after', hyphens', inside⟩ :=
          opened (Nat.lt_succ_of_lt (short.trans_le far))
        obtain ⟨ds', rfl, inside'⟩ := inside.tail_of_ne (by decide)
        cases next : skip flags bracket with
        | nil => exact absurd next some_text
        | cons c more =>
          rw [next] at short
          obtain ⟨ds'', next', after⟩ := inside'.skip_cons next (Nat.lt_of_succ_lt_succ short)
          refine ⟨c :: ds'', ?_, after.cons c⟩
          simp [readSetOpening, signed', hyphens', next']
    · next plain =>
      cases read
      obtain ⟨text', signed', after', hyphens', inside⟩ := opened short
      refine ⟨after', ?_, inside⟩
      simp only [readSetOpening, signed', hyphens', Option.bind_eq_bind, Option.bind_some]
      split
      · obtain ⟨cs', rfl, -⟩ := inside.tail_of_second (by decide)
        exact absurd rfl (plain _ rfl)
      · rfl

/-- The body of a class goes on after a part that is no class of its own. -/
theorem readSetBody_of_readSetRange {fuel : Nat} {negated : Bool}
    {left : Option (SetOperator × SetPart)} {parts : List SetPart} {part : SetPart}
    (range : readSetRange flags (skip flags cs) = some (part, rest))
    (some_text : skip flags cs ≠ [])
    (no_bracket : ∀ more, skip flags cs = '[' :: more → False)
    (no_close : ∀ more, skip flags cs = ']' :: more → False)
    (no_intersection : ∀ more, skip flags cs = '&' :: '&' :: more → False)
    (no_difference : ∀ more, skip flags cs = '-' :: '-' :: more → False)
    (no_symmetric : ∀ more, skip flags cs = '~' :: '~' :: more → False) :
    readSetBody flags (fuel + 1) negated left parts cs =
      readSetBody flags fuel negated left (part :: parts) rest := by
  rw [readSetBody]
  split
  · contradiction
  · exact absurd ‹_› (no_bracket _)
  · exact absurd ‹_› (no_close _)
  · exact absurd ‹_› (no_intersection _)
  · exact absurd ‹_› (no_difference _)
  · exact absurd ‹_› (no_symmetric _)
  · simp only [range]

/-- A class in a class is read alike if bodies are: it is one with a name, or it has a body of its
own. -/
theorem readSetBody_bracket_alike {fuel fuel' : Nat} {negated : Bool}
    {left : Option (SetOperator × SetPart)} {parts : List SetPart} {part : SetPart}
    {more : List Char}
    (inner : ∀ {negated left parts cs ds part rest}, Alike r t cs ds →
      readSetBody flags fuel negated left parts cs = some (part, rest) → r.length < rest.length →
        ds.length < fuel' →
          ∃ rest', readSetBody flags fuel' negated left parts ds = some (part, rest') ∧
            Alike r t rest rest')
    (alike : Alike r t cs ds) (bracket : skip flags cs = '[' :: more)
    (read : readSetBody flags (fuel + 1) negated left parts cs = some (part, rest))
    (short : r.length < rest.length) (enough : ds.length < fuel' + 1) :
    ∃ rest', readSetBody flags (fuel' + 1) negated left parts ds = some (part, rest') ∧
      Alike r t rest rest' := by
  simp only [readSetBody, bracket] at read
  split at read
  · next s without after named =>
    split at read
    · cases read
    · next set finished =>
      have left_over := (suffix_of_cons (suffix_of_readSetBody read)).length_le
      obtain ⟨ds', bracket', inside⟩ := alike.skip_cons bracket
        (short.trans_le (left_over.trans (suffix_of_readNamedSet named).length_le))
      obtain ⟨ds'', named', inside'⟩ := readNamedSet_alike inside named (short.trans_le left_over)
      have shorter := (suffix_of_readNamedSet named').length_le
      have taken := length_lt_of_skip bracket'
      obtain ⟨rest', read', same⟩ := inner inside' read short (by omega)
      refine ⟨rest', ?_, same⟩
      simp only [readSetBody, bracket', named', finished, read']
  · next unnamed =>
    split at read
    · cases read
    · next innerNegated innerParts after opening =>
      split at read
      · cases read
      · next part' after' body =>
        have left_over := (suffix_of_cons (suffix_of_readSetBody read)).length_le
        have in_body := (suffix_of_readSetBody body).length_le
        have opened := (suffix_of_readSetOpening opening).length_le
        rw [List.length_cons] at in_body
        obtain ⟨ds', bracket', inside⟩ := alike.skip_cons bracket (by omega)
        have unnamed' := readNamedSet_eq_none inside unnamed
        obtain ⟨after₁, opening', inside₁⟩ := readSetOpening_alike inside opening (by omega)
        have taken := length_lt_of_skip bracket'
        have opened' := (suffix_of_readSetOpening opening').length_le
        obtain ⟨after₂, body', inside₂⟩ := inner inside₁ body (by omega) (by omega)
        have in_body' := (suffix_of_cons (suffix_of_readSetBody body')).length_le
        obtain ⟨rest', read', same⟩ := inner inside₂ read short (by omega)
        refine ⟨rest', ?_, same⟩
        simp only [readSetBody, bracket', unnamed', opening', body', read']

theorem readSetBody_alike {fuel fuel' : Nat} {negated : Bool}
    {left : Option (SetOperator × SetPart)} {parts : List SetPart} {part : SetPart}
    (alike : Alike r t cs ds)
    (read : readSetBody flags fuel negated left parts cs = some (part, rest))
    (short : r.length < rest.length) (enough : ds.length < fuel') :
    ∃ rest', readSetBody flags fuel' negated left parts ds = some (part, rest') ∧
      Alike r t rest rest' := by
  induction fuel generalizing negated left parts cs ds part rest fuel' with
  | zero => cases read
  | succ fuel ih =>
    cases fuel' with
    | zero => cases enough
    | succ fuel' =>
      have whole := read
      unfold readSetBody at read
      dsimp only at read
      split at read
      · cases read
      · next more bracket => exact readSetBody_bracket_alike ih alike bracket whole short enough
      · next more bracket =>
        obtain ⟨s, known, read⟩ := Option.map_eq_some_iff.mp read
        cases read
        obtain ⟨ds', next', inside⟩ := alike.skip_cons bracket short
        refine ⟨ds', ?_, inside⟩
        simp only [readSetBody, next', known, Option.map_some]
      case h_4 more operator | h_5 more operator | h_6 more operator =>
        have left_over := (suffix_of_cons (suffix_of_readSetBody read)).length_le
        obtain ⟨ds', operator', inside, fewer⟩ :=
          alike.skip_twice operator (by decide) (short.trans_le left_over)
        obtain ⟨rest', read', same⟩ := @ih _ _ _ fuel' _ _ _ _ inside read short (by omega)
        exact ⟨rest', by simp only [readSetBody, operator', read'], same⟩
      · next no_text no_bracket no_close no_intersection no_difference no_symmetric =>
        split at read
        · cases read
        · next part' after range =>
          have left_over := (suffix_of_readSetBody read).length_le
          have taken := (suffix_of_readSetRange range).length_le
          rw [List.length_cons] at left_over
          rw [List.length_tail] at taken
          have skipped := skip_alike flags alike (by omega)
          obtain ⟨after', range', inside⟩ := readSetRange_alike skipped range (by omega)
          have some_text : skip flags ds ≠ [] := by
            intro empty
            rw [empty] at range'
            cases range'
          have taken' := (suffix_of_readSetRange range').length_le
          rw [List.length_tail] at taken'
          have blanks := (skip_suffix flags ds).length_le
          have shorter := List.length_pos_iff.mpr some_text
          obtain ⟨rest', read', same⟩ := @ih _ _ _ fuel' _ _ _ _ inside read short (by omega)
          refine ⟨rest', ?_, same⟩
          rw [readSetBody_of_readSetRange range' some_text, read']
          · exact skipped.not_cons (by decide) no_bracket
          · exact skipped.not_cons (by decide) no_close
          · exact skipped.not_cons_cons (by decide) (by decide) no_intersection
          · exact skipped.not_cons_cons (by decide) (by decide) no_difference
          · exact skipped.not_cons_cons (by decide) (by decide) no_symmetric

end Remap.Regex
