import Remap.Regex.Simplify

/-!
# Matching

A pattern is run on all positions of a text at once. `additive_ends` says that this is the same as
running it on each of them: it ends where it ends from one of the positions. A sequence is put
together from the parts of its parts, with literals beside each other joined; by `ends_concat` it
still ends where its parts end one after the other.
-/

namespace Remap.Regex

variable {text : Array Char} {as bs at_ : List Nat} {i j : Nat}

/-! ## Sets of positions -/

/-- The positions ascend, so that none comes twice. -/
abbrev Ascending (at_ : List Nat) : Prop := at_.Pairwise (· < ·)

theorem mem_merge : j ∈ merge as bs ↔ j ∈ as ∨ j ∈ bs := by
  fun_induction merge as bs with
  | case1 => simp
  | case2 => simp
  | case3 a as b bs less ih => simp only [List.mem_cons, ih, or_assoc]
  | case4 a as b bs _ more ih =>
    simp only [List.mem_cons, ih, or_left_comm]
  | case5 a as b bs notLess notMore ih =>
    obtain rfl : a = b := by omega
    simp only [List.mem_cons, ih]
    grind

theorem ascending_merge (left : Ascending as) (right : Ascending bs) :
    Ascending (merge as bs) := by
  fun_induction merge as bs with
  | case1 => exact right
  | case2 => exact left
  | case3 a as b bs less ih =>
    obtain ⟨first, left⟩ := List.pairwise_cons.mp left
    refine List.pairwise_cons.mpr ⟨fun k member => ?_, ih left right⟩
    rcases mem_merge.mp member with inside | inside
    · exact first k inside
    · rcases List.mem_cons.mp inside with rfl | inside
      · exact less
      · exact Nat.lt_trans less ((List.pairwise_cons.mp right).1 k inside)
  | case4 a as b bs _ more ih =>
    obtain ⟨second, right⟩ := List.pairwise_cons.mp right
    refine List.pairwise_cons.mpr ⟨fun k member => ?_, ih left right⟩
    rcases mem_merge.mp member with inside | inside
    · rcases List.mem_cons.mp inside with rfl | inside
      · exact more
      · exact Nat.lt_trans more ((List.pairwise_cons.mp left).1 k inside)
    · exact second k inside
  | case5 a as b bs notLess notMore ih =>
    obtain rfl : a = b := by omega
    obtain ⟨first, left⟩ := List.pairwise_cons.mp left
    obtain ⟨second, right⟩ := List.pairwise_cons.mp right
    refine List.pairwise_cons.mpr ⟨fun k member => ?_, ih left right⟩
    exact (mem_merge.mp member).elim (first k) (second k)

theorem without_sublist (as bs : List Nat) : (without as bs).Sublist as := by
  fun_induction without as bs with
  | case1 => exact .slnil
  | case2 => exact .refl _
  | case3 _ _ _ _ _ ih => exact ih.cons_cons _
  | case4 _ _ _ _ _ _ ih => exact ih
  | case5 _ _ _ _ _ _ ih => exact ih.cons _

theorem mem_without (left : Ascending as) (right : Ascending bs) :
    j ∈ without as bs ↔ j ∈ as ∧ j ∉ bs := by
  fun_induction without as bs with
  | case1 => simp
  | case2 => simp
  | case3 a as b bs less ih =>
    have fresh : a ∉ b :: bs := by
      intro member
      rcases List.mem_cons.mp member with rfl | inside
      · omega
      · have := (List.pairwise_cons.mp right).1 a inside
        omega
    have kept : j = a → j ∉ b :: bs := by
      rintro rfl
      exact fresh
    rw [List.mem_cons, ih (List.pairwise_cons.mp left).2 right, List.mem_cons (l := as),
      or_and_right, and_iff_left_of_imp kept]
  | case4 a as b bs _ more ih =>
    have absent : b ∉ a :: as := by
      intro member
      rcases List.mem_cons.mp member with rfl | inside
      · omega
      · have := (List.pairwise_cons.mp left).1 b inside
        omega
    rw [ih left (List.pairwise_cons.mp right).2]
    refine and_congr_right fun member => not_congr ?_
    rw [List.mem_cons, or_iff_right]
    rintro rfl
    exact absent member
  | case5 a as b bs notLess notMore ih =>
    obtain rfl : a = b := by omega
    obtain ⟨first, left⟩ := List.pairwise_cons.mp left
    obtain ⟨second, right⟩ := List.pairwise_cons.mp right
    have later (member : j ∈ as) : j ≠ a := Nat.ne_of_gt (first j member)
    simp only [ih left right, List.mem_cons]
    grind

/-! ## Steps from several positions -/

/-- A step on positions goes from several to where it goes from one of them. -/
structure Additive (step : List Nat → List Nat) : Prop where
  ascending {at_ : List Nat} : Ascending at_ → Ascending (step at_)
  mem_iff {at_ : List Nat} {j : Nat} :
    Ascending at_ → (j ∈ step at_ ↔ ∃ i ∈ at_, j ∈ step [i])

namespace Additive

variable {step step' : List Nat → List Nat}

theorem eq_nil (additive : Additive step) : step [] = [] := by
  rw [List.eq_nil_iff_forall_not_mem]
  intro j member
  obtain ⟨_, none, _⟩ := (additive.mem_iff .nil).mp member
  cases none

theorem identity : Additive fun at_ => at_ :=
  ⟨id, fun _ => by simp⟩

theorem filter (p : Nat → Bool) : Additive (List.filter p) where
  ascending order := order.filter p
  mem_iff _ := by simp [and_assoc, and_comm]

/-- Each position moves by the same number, if it moves. -/
theorem filterMap {f : Nat → Option Nat} {width : Nat}
    (moves : ∀ i j, f i = some j → j = i + width) : Additive (List.filterMap f) where
  ascending order := by
    refine List.Pairwise.filterMap f (fun i k less j found l found' => ?_) order
    rw [moves i j found, moves k l found']
    omega
  mem_iff _ := by simp

theorem comp (first : Additive step) (second : Additive step') :
    Additive fun at_ => step' (step at_) where
  ascending order := second.ascending (first.ascending order)
  mem_iff {at_ j} order := by
    rw [second.mem_iff (first.ascending order)]
    constructor
    · rintro ⟨k, reached, ends⟩
      obtain ⟨i, start, reached⟩ := (first.mem_iff order).mp reached
      have single := first.ascending (List.pairwise_singleton (· < ·) i)
      exact ⟨i, start, (second.mem_iff single).mpr ⟨k, reached, ends⟩⟩
    · rintro ⟨i, start, ends⟩
      have single := first.ascending (List.pairwise_singleton (· < ·) i)
      obtain ⟨k, reached, ends⟩ := (second.mem_iff single).mp ends
      exact ⟨k, (first.mem_iff order).mpr ⟨i, start, reached⟩, ends⟩

theorem merge (left : Additive step) (right : Additive step') :
    Additive fun at_ => Regex.merge (step at_) (step' at_) where
  ascending order := ascending_merge (left.ascending order) (right.ascending order)
  mem_iff order := by
    simp only [mem_merge, left.mem_iff order, right.mem_iff order, ← exists_or, and_or_left]

theorem times_succ (additive : Additive step) (n : Nat) (at_ : List Nat) :
    times step (n + 1) at_ = times step n (step at_) := by
  rw [times]
  split
  · next none =>
    obtain rfl := List.isEmpty_iff.mp none
    rw [additive.eq_nil]
    cases n <;> rfl
  · rfl

theorem times (additive : Additive step) (n : Nat) : Additive (Regex.times step n) := by
  induction n with
  | zero => exact identity
  | succ n ih =>
    have steps : Regex.times step (n + 1) = fun at_ => Regex.times step n (step at_) :=
      funext (additive.times_succ n)
    rw [steps]
    exact additive.comp ih

/-! What `closure` keeps while it runs: the steps from what is seen lead to what is seen, apart from
those that are still to be taken. -/

/-- The steps from the positions seen have been taken, except from the fresh ones. -/
structure Taken (step : List Nat → List Nat) (fresh seen : List Nat) : Prop where
  freshOrder : Ascending fresh
  seenOrder : Ascending seen
  inside : ∀ i ∈ fresh, i ∈ seen
  taken : ∀ i ∈ seen, i ∉ fresh → ∀ j ∈ step [i], j ∈ seen

theorem Taken.next {fresh seen : List Nat} (additive : Additive step)
    (taken : Taken step fresh seen) :
    Taken step (without (step fresh) seen)
      (Regex.merge (without (step fresh) seen) seen) where
  freshOrder := (additive.ascending taken.freshOrder).sublist (without_sublist _ _)
  seenOrder := ascending_merge
    ((additive.ascending taken.freshOrder).sublist (without_sublist _ _)) taken.seenOrder
  inside _ member := mem_merge.mpr (.inl member)
  taken i member old j reached := by
    have before := (mem_merge.mp member).resolve_left old
    by_cases known : j ∈ seen
    · exact mem_merge.mpr (.inr known)
    · by_cases new : i ∈ fresh
      · have stepped := (additive.mem_iff taken.freshOrder).mpr ⟨i, new, reached⟩
        exact mem_merge.mpr (.inl ((mem_without (additive.ascending taken.freshOrder)
          taken.seenOrder).mpr ⟨stepped, known⟩))
      · exact absurd (taken.taken i before new j reached) known

/-- Some steps from a position seen end at one seen, or come to a fresh one on the way. -/
theorem Taken.mem_or_exists_fresh {fresh seen : List Nat} (additive : Additive step)
    (taken : Taken step fresh seen) {n : Nat} (start : i ∈ seen)
    (reached : j ∈ Regex.times step n [i]) :
    j ∈ seen ∨ ∃ k ∈ fresh, ∃ m ≤ n, j ∈ Regex.times step m [k] := by
  induction n generalizing i with
  | zero =>
    cases List.mem_singleton.mp reached
    exact .inl start
  | succ n ih =>
    by_cases new : i ∈ fresh
    · exact .inr ⟨i, new, n + 1, Nat.le_refl _, reached⟩
    · have single := additive.ascending (List.pairwise_singleton (· < ·) i)
      rw [additive.times_succ, (additive.times n).mem_iff single] at reached
      obtain ⟨k, stepped, reached⟩ := reached
      rcases ih (taken.taken i start new k stepped) reached with inside | ⟨l, new, m, few, ends⟩
      · exact .inl inside
      · exact .inr ⟨l, new, m, Nat.le_succ_of_le few, ends⟩

/-- The closure holds what is seen and what so many steps from the fresh positions lead to. -/
theorem Taken.closure {fresh seen : List Nat} (additive : Additive step)
    (taken : Taken step fresh seen) (n : Nat) :
    Ascending (Regex.closure step n fresh seen) ∧ ∀ j, j ∈ Regex.closure step n fresh seen ↔
      j ∈ seen ∨ ∃ i ∈ fresh, ∃ m ≤ n, j ∈ Regex.times step m [i] := by
  induction n generalizing fresh seen with
  | zero =>
    refine ⟨taken.seenOrder, fun j => ⟨.inl, ?_⟩⟩
    rintro (inside | ⟨i, new, m, none, reached⟩)
    · exact inside
    · cases Nat.le_zero.mp none
      cases List.mem_singleton.mp reached
      exact taken.inside _ new
  | succ n ih =>
    rw [Regex.closure]
    split
    · next none =>
      obtain rfl := List.isEmpty_iff.mp none
      exact ⟨taken.seenOrder, by simp⟩
    · have next := taken.next additive
      have single (i : Nat) := additive.ascending (List.pairwise_singleton (· < ·) i)
      have order := additive.ascending taken.freshOrder
      refine ⟨(ih next).1, fun j => ((ih next).2 j).trans ⟨?_, ?_⟩⟩
      · rintro (inside | ⟨k, new, m, few, reached⟩)
        · rcases mem_merge.mp inside with new | old
          · obtain ⟨i, start, stepped⟩ :=
              (additive.mem_iff taken.freshOrder).mp ((mem_without order taken.seenOrder).mp new).1
            exact .inr ⟨i, start, 1, by omega, by rwa [additive.times_succ]⟩
          · exact .inl old
        · obtain ⟨i, start, stepped⟩ :=
            (additive.mem_iff taken.freshOrder).mp ((mem_without order taken.seenOrder).mp new).1
          refine .inr ⟨i, start, m + 1, Nat.succ_le_succ few, ?_⟩
          rw [additive.times_succ, (additive.times m).mem_iff (single i)]
          exact ⟨k, stepped, reached⟩
      · rintro (inside | ⟨i, start, m, few, reached⟩)
        · exact .inl (mem_merge.mpr (.inr inside))
        · cases m with
          | zero =>
            cases List.mem_singleton.mp reached
            exact .inl (mem_merge.mpr (.inr (taken.inside _ start)))
          | succ m =>
            rw [additive.times_succ, (additive.times m).mem_iff (single i)] at reached
            obtain ⟨k, stepped, reached⟩ := reached
            have known : k ∈ Regex.merge (without (step fresh) seen) seen := by
              have all := (additive.mem_iff taken.freshOrder).mpr ⟨i, start, stepped⟩
              rw [mem_merge, mem_without order taken.seenOrder]
              grind
            rcases next.mem_or_exists_fresh additive known reached with
              inside | ⟨l, new, m', fewer, ends⟩
            · exact .inl inside
            · exact .inr ⟨l, new, m', by omega, ends⟩

theorem closure (additive : Additive step) (n : Nat) :
    Additive fun at_ => Regex.closure step n at_ at_ := by
  have all {at_ : List Nat} (order : Ascending at_) : Taken step at_ at_ :=
    ⟨order, order, fun _ => id, fun _ start new => absurd start new⟩
  refine ⟨fun order => ((all order).closure additive n).1, fun {at_ j} order => ?_⟩
  have single (i : Nat) := ((all (List.pairwise_singleton (· < ·) i)).closure additive n).2 j
  simp only [single, ((all order).closure additive n).2 j, List.mem_singleton, exists_eq_left]
  constructor
  · rintro (start | ⟨i, start, more⟩)
    · exact ⟨j, start, .inl rfl⟩
    · exact ⟨i, start, .inr more⟩
  · rintro ⟨i, start, rfl | more⟩
    · exact .inl start
    · exact .inr ⟨i, start, more⟩

end Additive

theorem afterLiteral?_eq_some {cs : List Char} (found : afterLiteral? text cs i = some j) :
    j = i + cs.length := by
  induction cs generalizing i with
  | nil => exact (Option.some.inj found).symm
  | cons c cs ih =>
    rw [afterLiteral?] at found
    split at found
    · rw [ih found, List.length_cons]
      omega
    · cases found

theorem afterMember?_eq_some {s : CharSet} (found : afterMember? text s i = some j) :
    j = i + 1 := by
  unfold afterMember? at found
  split at found
  · split at found
    · exact (Option.some.inj found).symm
    · cases found
  · cases found

/-- A pattern ends where it ends from one of the positions at which it starts. -/
theorem additive_ends (text : Array Char) (n : Node) : Additive (n.ends text) := by
  induction n with
  | empty => exact .identity
  | literal cs => exact .filterMap fun _ _ => afterLiteral?_eq_some
  | set ascii s => exact .filterMap fun _ _ => afterMember?_eq_some
  | look l => exact .filter _
  | seq a b first second => exact first.comp second
  | alt a b left right => exact left.merge right
  | repeated a least most greedy part => exact (part.times _).comp (part.closure _)
  | group index a inner => exact inner

/-- A pattern is found in a text if it ends anywhere from a position of the text. -/
theorem isMatch_iff (n : Node) (s : String) :
    n.isMatch s = true ↔ ∃ i j, i ≤ s.length ∧ j ∈ n.ends s.toList.toArray [i] := by
  have all (j : Nat) := (additive_ends s.toList.toArray n).mem_iff (j := j)
    (List.pairwise_lt_range (n := s.toList.toArray.size + 1))
  have size : s.toList.toArray.size = s.length := by simp [String.length_toList]
  rw [Node.isMatch, Bool.not_eq_true', List.isEmpty_eq_false_iff_exists_mem, exists_comm]
  exact exists_congr fun j =>
    (all j).trans (by simp only [List.mem_range, Nat.lt_succ_iff, size])

/-! ## Patterns in a row -/

/-- Where patterns in a row can end that start at one of the positions. -/
def endsInRow (text : Array Char) (ns : List Node) (at_ : List Nat) : List Nat :=
  ns.foldl (fun at_ n => n.ends text at_) at_

theorem afterLiteral?_append (a b : List Char) (i : Nat) :
    afterLiteral? text (a ++ b) i = (afterLiteral? text a i).bind (afterLiteral? text b) := by
  induction a generalizing i with
  | nil => rfl
  | cons c a ih =>
    simp only [List.cons_append, afterLiteral?]
    split
    · exact ih (i + 1)
    · rfl

theorem endsInRow_consPart (part : Node) (rest : List Node) (at_ : List Nat) :
    endsInRow text (Node.consPart part rest) at_ = endsInRow text (part :: rest) at_ := by
  unfold Node.consPart
  split
  · next a b rest =>
    have literals : (Node.literal (a ++ b)).ends text at_ =
        (Node.literal b).ends text ((Node.literal a).ends text at_) := by
      rw [Node.ends, Node.ends, Node.ends, List.filterMap_filterMap]
      exact congrArg (at_.filterMap ·) (funext (afterLiteral?_append a b))
    exact congrArg (endsInRow text rest) literals
  · rfl

theorem endsInRow_parts (n : Node) (at_ : List Nat) :
    endsInRow text n.parts at_ = n.ends text at_ := by
  induction n generalizing at_ with
  | seq a b _ ih => exact ih _
  | _ => rfl

theorem ends_row (ns : List Node) (at_ : List Nat) :
    (Node.row ns).ends text at_ = endsInRow text ns at_ := by
  fun_induction Node.row ns generalizing at_ with
  | case1 => rfl
  | case2 => rfl
  | case3 n rest _ ih => exact ih _

/-- A sequence matches as its parts do one after the other. -/
theorem ends_concat (ns : List Node) (at_ : List Nat) :
    (Node.concat ns).ends text at_ = endsInRow text ns at_ := by
  have joined (ms : List Node) (at_ : List Nat) :
      endsInRow text (ms.foldr Node.consPart []) at_ = endsInRow text ms at_ := by
    induction ms generalizing at_ with
    | nil => rfl
    | cons m ms ih =>
      rw [List.foldr_cons, endsInRow_consPart]
      exact ih _
  rw [Node.concat, ends_row, joined]
  induction ns generalizing at_ with
  | nil => rfl
  | cons n ns ih =>
    rw [List.flatMap_cons, endsInRow, List.foldl_append]
    change endsInRow text _ (endsInRow text n.parts at_) = _
    rw [endsInRow_parts, ih]
    rfl

end Remap.Regex
