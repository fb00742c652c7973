import Mathlib.Data.List.Fold
import Mathlib.Data.List.MinMax
import Remap.Proofs.Regex.Documented
import Remap.Proofs.Regex.Groups
import Remap.Proofs.Regex.Matching

/-!
# The standard engine keeps the rules

The reader of this pattern language is an engine that does what `Documented` asks. A group is read
up to its own parenthesis, and what it holds is then the same pattern by itself, in a group alone
and in a group between anchors.

Main statement: the standard engine is documented, with the positions at which its patterns end.
-/

namespace Remap.Regex

/-! ## Depths -/

theorem depth_le_depthOver {piece : Piece} {pieces : List Piece} (member : piece ∈ pieces) :
    piece.depth ≤ depthOver pieces := by
  rw [depthOver, List.foldl_eq_foldr]
  exact (List.le_max_of_le' 0 (List.mem_map_of_mem member) le_rfl).trans (Nat.le_add_left _ _)

theorem depth_le_sequence {piece : Piece} {pieces : List Piece} (member : piece ∈ pieces) :
    piece.depth ≤ (sequence pieces).depth := by
  unfold sequence
  split
  · cases member
  · cases List.mem_singleton.mp member
    exact Nat.le_refl _
  · exact depth_le_depthOver member

theorem depth_le_alternatives {piece : Piece} {pieces : List Piece} (member : piece ∈ pieces) :
    piece.depth ≤ (alternatives pieces).depth := by
  unfold alternatives
  split
  · cases member
  · cases List.mem_singleton.mp member
    exact Nat.le_refl _
  · exact depth_le_depthOver member

/-- Some part or branch at a place has at least a depth. -/
def Place.IsDeep (d : Nat) (place : Place) : Prop :=
  ∃ piece ∈ place.branches ++ place.parts, d ≤ piece.depth

namespace Place.IsDeep

variable {d : Nat} {place after : Place}

theorem push (deep : place.IsDeep d) (flags : Flags) (groups : List (Option String))
    (piece : Piece) :
    ({ place with flags, groups }.push piece).IsDeep d := by
  obtain ⟨part, member, le⟩ := deep
  refine ⟨part, ?_, le⟩
  simp only [Place.push, List.mem_append, List.mem_cons] at member ⊢
  exact member.imp_right .inr

theorem of_push {flags : Flags} {branches parts : List Piece} {groups : List (Option String)}
    {piece : Piece} (le : d ≤ piece.depth) :
    (Place.push ⟨flags, branches, parts, groups⟩ piece).IsDeep d :=
  ⟨piece, List.mem_append_right _ List.mem_cons_self, le⟩

theorem repeated {least : Nat} {most : Option Nat} {cs rest : List Char} (deep : place.IsDeep d)
    (read : place.repeated least most cs = some (after, rest)) : after.IsDeep d := by
  obtain ⟨⟨piece, before⟩, popped, read⟩ := Option.bind_eq_some_iff.mp read
  cases read
  unfold Place.pop? at popped
  split at popped
  · next first more parts =>
    split at popped
    · cases popped
      obtain ⟨part, member, le⟩ := deep
      rw [parts, List.mem_append, List.mem_cons] at member
      rcases member with branch | rfl | part
      · exact ⟨_, List.mem_append_left _ branch, le⟩
      · exact of_push (le.trans (Nat.le_add_left _ _))
      · exact ⟨_, List.mem_append_right _ (List.mem_cons_of_mem _ part), le⟩
    · cases popped
  · cases popped

theorem finish (deep : place.IsDeep d) : d ≤ place.finish.depth := by
  obtain ⟨piece, member, le⟩ := deep
  refine le.trans ?_
  rcases List.mem_append.mp member with branch | part
  · exact depth_le_alternatives (List.mem_append_left _ (List.mem_reverse.mpr branch))
  · exact (depth_le_sequence (List.mem_reverse.mpr part)).trans
      (depth_le_alternatives (List.mem_append_right _ (List.mem_singleton_self _)))

theorem readPart {nested : GroupReader} {cs rest : List Char} (deep : place.IsDeep d)
    (read : Regex.readPart nested place cs = some (after, rest)) : after.IsDeep d := by
  unfold Regex.readPart at read
  split at read
  · obtain ⟨⟨opening, more⟩, opened, read⟩ := Option.bind_eq_some_iff.mp read
    dsimp only at read
    split at read
    · cases read
      exact deep.push _ place.groups _
    · obtain ⟨⟨piece, groups, more'⟩, group, read⟩ := Option.bind_eq_some_iff.mp read
      cases read
      exact deep.push place.flags groups _
    · split at read
      · cases read
      · obtain ⟨⟨piece, groups, more'⟩, group, read⟩ := Option.bind_eq_some_iff.mp read
        cases read
        exact deep.push place.flags groups _
  · cases read
    obtain ⟨part, member, le⟩ := deep
    rcases List.mem_append.mp member with branch | part
    · exact ⟨_, List.mem_append_left _ (List.mem_cons_of_mem _ branch), le⟩
    · exact ⟨_, List.mem_append_left _ List.mem_cons_self,
        le.trans (depth_le_sequence (List.mem_reverse.mpr part))⟩
  · obtain ⟨⟨negated, parts, more⟩, opened, read⟩ := Option.bind_eq_some_iff.mp read
    obtain ⟨⟨part, more'⟩, body, read⟩ := Option.bind_eq_some_iff.mp read
    cases read
    exact deep.push place.flags place.groups _
  · exact deep.repeated read
  · exact deep.repeated read
  · exact deep.repeated read
  · obtain ⟨⟨least, most, more⟩, bounds, read⟩ := Option.bind_eq_some_iff.mp read
    exact deep.repeated read
  · obtain ⟨⟨node, more⟩, primitive, read⟩ := Option.bind_eq_some_iff.mp read
    cases read
    exact deep.push place.flags place.groups _

/-- A group is at least as deep as what it has been read so far. -/
theorem readGroup {fuel : Nat} {inner : Bool} {cs rest : List Char} {piece : Piece}
    {groups : List (Option String)} (deep : place.IsDeep d)
    (read : Regex.readGroup fuel inner place cs = some (piece, groups, rest)) :
    d ≤ piece.depth := by
  induction fuel generalizing place cs with
  | zero => cases read
  | succ fuel ih =>
    rw [Regex.readGroup] at read
    split at read
    · split at read
      · cases read
      · cases read
        exact deep.finish
    · split at read
      · cases read
        exact deep.finish
      · cases read
    · obtain ⟨⟨next, more⟩, part, read⟩ := Option.bind_eq_some_iff.mp read
      exact ih (deep.readPart part) read

end Place.IsDeep

/-! ## Groups -/

theorem pattern?_eq_some_iff {p : String} {node : Node} :
    pattern? p = some node ↔ ∃ piece groups rest,
      readGroup (2 * p.toList.length + 2) false .start p.toList = some (piece, groups, rest) ∧
        piece.depth ≤ nestLimit ∧ piece.node = node := by
  constructor
  · intro read
    obtain ⟨piece, found, result⟩ := Option.bind_eq_some_iff.mp read
    obtain ⟨⟨_, groups, rest⟩, whole, rfl⟩ := Option.map_eq_some_iff.mp found
    split at result
    · cases result
    · next shallow =>
      cases result
      exact ⟨_, groups, rest, whole, not_lt.mp shallow, rfl⟩
  · rintro ⟨piece, groups, rest, whole, shallow, rfl⟩
    simp [pattern?, readPiece?, whole, shallow.not_gt]

/-- The standard engine takes for patterns what follows its grammar. -/
theorem isPattern_iff {p : String} : IsPattern p ↔ ∃ node, pattern? p = some node := by
  have known : (∃ node, pattern? p = some node) ↔ pattern? p ≠ none :=
    Option.isSome_iff_exists.symm.trans Option.isSome_iff_ne_none
  change (∀ message, readPattern p ≠ .error (.invalid message)) ↔ _
  rw [known, readPattern]
  cases pattern? p with
  | none => exact iff_of_false (fun accepts => accepts _ rfl) (fun some => some rfl)
  | some node =>
    refine iff_of_true (fun message => ?_) (Option.some_ne_none node)
    dsimp only
    split <;> simp

/-- A group that opens is read up to its end, and becomes a part. -/
theorem readGroup_open (fuel : Nat) (inner : Bool) (branches parts : List Piece)
    (groups : List (Option String)) (cs : List Char) :
    readGroup (fuel + 1) inner ⟨{}, branches, parts, groups⟩ ('(' :: '?' :: ':' :: cs) =
      (readGroup fuel true ⟨{}, [], [], groups⟩ cs).bind fun (piece, groups, rest) =>
        readGroup fuel inner
          ⟨{}, branches, ⟨piece.node, 1 + piece.depth, true⟩ :: parts, groups⟩ rest := by
  rw [readGroup]
  change ((readGroup fuel true ⟨{}, [], [], groups⟩ cs).bind _).bind _ = _
  rw [Option.bind_assoc]
  rfl

theorem readGroup_caret (fuel : Nat) (cs : List Char) :
    readGroup (fuel + 1) false .start ('^' :: cs) =
      readGroup fuel false ⟨{}, [], [⟨.look .textStart, 0, true⟩], []⟩ cs :=
  readGroup_of_readPart rfl (by decide) rfl

/-- A closing parenthesis in a text, replaced by another end. -/
theorem alike_append {t : List Char} (stops : Stops t) (u r : List Char) :
    Alike r t (u ++ ')' :: r) (u ++ t) := by
  induction u with
  | nil => exact .stop stops
  | cons c u ih => exact ih.cons c

/-- The text before its closing parenthesis makes up a group. -/
def GroupIs (p : String) (inner : Piece) (groups : List (Option String)) : Prop :=
  ∃ fuel r, readGroup fuel true .start (p.toList ++ ')' :: r) = some (inner, groups, r)

namespace GroupIs

variable {p : String} {inner : Piece} {groups : List (Option String)}

/-- Where a text stops, the group in it is the same, whatever the text goes on with. -/
theorem readGroup (group : GroupIs p inner groups) (fuel : Nat) (top : Bool) {t : List Char}
    (stops : Stops t) (enough : (p.toList ++ t).length < fuel) :
    Regex.readGroup fuel top .start (p.toList ++ t) = ending top inner groups t := by
  obtain ⟨_, r, read⟩ := group
  exact readGroup_of_close fuel top (alike_append stops p.toList r) read rfl enough

/-- By itself the group is a pattern. -/
theorem pattern?_eq (group : GroupIs p inner groups) (shallow : inner.depth ≤ nestLimit) :
    pattern? p = some inner.node := by
  have read := group.readGroup (2 * p.toList.length + 2) false .nil (by simp; omega)
  rw [List.append_nil] at read
  exact pattern?_eq_some_iff.mpr ⟨inner, groups, [], read, shallow, rfl⟩

/-- In a group it is the same pattern. -/
theorem pattern?_grouped (group : GroupIs p inner groups) (shallow : 1 + inner.depth ≤ nestLimit) :
    pattern? (grouped p) = some inner.node := by
  have text : (grouped p).toList = '(' :: '?' :: ':' :: (p.toList ++ [')']) := by simp [grouped]
  refine pattern?_eq_some_iff.mpr
    ⟨⟨inner.node, 1 + inner.depth, true⟩, groups, [], ?_, shallow, rfl⟩
  have read := group.readGroup (2 * (grouped p).toList.length + 1) true (.close [])
    (by simp [text]; omega)
  change Regex.readGroup (2 * (grouped p).toList.length + 1 + 1) false ⟨{}, [], [], []⟩ _ = _
  rw [text] at read ⊢
  rw [readGroup_open]
  change (Regex.readGroup _ true .start _).bind _ = _
  rw [read]
  rfl

/-- Between the anchors the same pattern stands between their conditions. -/
theorem eq_concat_of_pattern?_row (group : GroupIs p inner groups) {node : Node}
    (read : pattern? ("^" ++ grouped p ++ "$") = some node) :
    node = Node.concat [.look .textStart, inner.node, .look .textEnd] := by
  have text : ("^" ++ grouped p ++ "$").toList =
      '^' :: '(' :: '?' :: ':' :: (p.toList ++ [')', '$']) := by simp [grouped]
  obtain ⟨piece, groups', rest, whole, -, rfl⟩ := pattern?_eq_some_iff.mp read
  have fuel : 2 * ("^" ++ grouped p ++ "$").toList.length + 2 =
      2 * p.toList.length + 11 + 1 + 1 + 1 := by
    simp [text]
    omega
  rw [fuel, text, readGroup_caret, readGroup_open] at whole
  change (Regex.readGroup _ true .start _).bind _ = _ at whole
  rw [group.readGroup _ true (.close ['$']) (by simp; omega)] at whole
  have dollar : Regex.readGroup (2 * p.toList.length + 11 + 1) false
      ⟨{}, [], [⟨inner.node, 1 + inner.depth, true⟩, ⟨.look .textStart, 0, true⟩], groups⟩ ['$'] =
        Regex.readGroup (2 * p.toList.length + 11) false ⟨{}, [], [⟨.look .textEnd, 0, true⟩,
          ⟨inner.node, 1 + inner.depth, true⟩, ⟨.look .textStart, 0, true⟩], groups⟩ [] :=
    readGroup_of_readPart (c := '$') rfl (by decide) rfl
  cases dollar.symm.trans whole
  rfl

/-- Before a parenthesis that no group opens it is no pattern. -/
theorem pattern?_append (group : GroupIs p inner groups) (u : String) :
    pattern? (p ++ ")" ++ u) = none := by
  have text : (p ++ ")" ++ u).toList = p.toList ++ ')' :: u.toList := by simp
  have read := group.readGroup (2 * (p ++ ")" ++ u).toList.length + 2) false
    (.close u.toList) (by rw [text]; omega)
  rw [← text] at read
  rw [pattern?, readPiece?, read]
  rfl

end GroupIs

/-- A group that opens holds a text up to a closing parenthesis, and is no deeper than the whole. -/
theorem exists_group_of_readGroup_open {fuel : Nat} {top : Bool} {parts : List Piece}
    {cs rest : List Char} {piece : Piece} {groups : List (Option String)}
    (read : readGroup (fuel + 1) top ⟨{}, [], parts, []⟩ ('(' :: '?' :: ':' :: cs) =
      some (piece, groups, rest)) :
    ∃ u after inner groups', u ++ ')' :: after = cs ∧ GroupIs (String.ofList u) inner groups' ∧
      1 + inner.depth ≤ piece.depth := by
  rw [readGroup_open] at read
  obtain ⟨⟨inner, groups', after⟩, nested, outer⟩ := Option.bind_eq_some_iff.mp read
  obtain ⟨u, found⟩ := suffix_of_readGroup nested
  refine ⟨u, after, inner, groups', found, ⟨fuel, after, ?_⟩,
    (Place.IsDeep.of_push le_rfl).readGroup outer⟩
  rw [String.toList_ofList, found]
  exact nested

/-- A text that is a pattern both by itself and in a group makes up a group. -/
theorem FitsGroup.exists_group {p : String} (fits : FitsGroup p) :
    ∃ inner groups, GroupIs p inner groups ∧ 1 + inner.depth ≤ nestLimit := by
  obtain ⟨node, alone⟩ := isPattern_iff.mp fits.alone
  obtain ⟨_, inGroup⟩ := isPattern_iff.mp fits.inGroup
  obtain ⟨piece, groups, rest, whole, shallow, -⟩ := pattern?_eq_some_iff.mp inGroup
  have text : (grouped p).toList = '(' :: '?' :: ':' :: (p.toList ++ [')']) := by simp [grouped]
  rw [text] at whole
  obtain ⟨u, after, inner, groups', found, group, deep⟩ := exists_group_of_readGroup_open whole
  rcases eq_or_exists_of_append List.not_mem_nil found with rfl | ⟨more, early⟩
  · rw [String.ofList_toList] at group
    exact ⟨inner, groups', group, deep.trans shallow⟩
  · have same : p = String.ofList u ++ ")" ++ String.ofList more := by
      rw [← String.toList_inj]
      simp [early]
    rw [same, group.pattern?_append] at alone
    cases alone

/-! ## The rules -/

/-- The pattern ends at the second position when it starts at the first one. -/
def StandardSpans (p s : String) (i j : Nat) : Prop :=
  ∃ node, pattern? p = some node ∧ i ≤ s.length ∧ j ∈ node.ends s.toList.toArray [i]

theorem spans_iff {p s : String} {i j : Nat} {node : Node} (read : pattern? p = some node) :
    StandardSpans p s i j ↔ i ≤ s.length ∧ j ∈ node.ends s.toList.toArray [i] := by
  simp [StandardSpans, read]

theorem pattern?_of_read {p : String} {r : Regex} (read : Engine.read p = .ok r) :
    ∃ node, pattern? p = some node ∧ r = ⟨p, node.isMatch⟩ := by
  change readPattern p = .ok r at read
  unfold readPattern at read
  split at read
  · cases read
  · next node found =>
    split at read
    · cases read
      exact ⟨node, found, rfl⟩
    · cases read

theorem spans_caret {s : String} {i j : Nat} : StandardSpans "^" s i j ↔ i = 0 ∧ j = 0 := by
  have read : pattern? "^" = some (.look .textStart) := by decide +kernel
  rw [spans_iff read, Node.ends]
  simp [Look.holds]
  omega

theorem spans_dollar {s : String} {i j : Nat} :
    StandardSpans "$" s i j ↔ i = s.length ∧ j = s.length := by
  have read : pattern? "$" = some (.look .textEnd) := by decide +kernel
  rw [spans_iff read, Node.ends]
  simp [Look.holds, String.length_toList]
  omega

theorem spans_grouped {p s : String} {i j : Nat} (fits : FitsGroup p) :
    StandardSpans (grouped p) s i j ↔ StandardSpans p s i j := by
  obtain ⟨inner, groups, group, shallow⟩ := fits.exists_group
  rw [spans_iff (group.pattern?_grouped shallow), spans_iff (group.pattern?_eq (by omega))]

theorem spans_row {p s : String} {i j : Nat} (fits : FitsGroup p)
    (row : IsPattern ("^" ++ grouped p ++ "$")) :
    StandardSpans ("^" ++ grouped p ++ "$") s i j ↔ ∃ k l, StandardSpans "^" s i k ∧
      StandardSpans (grouped p) s k l ∧ StandardSpans "$" s l j := by
  obtain ⟨inner, groups, group, shallow⟩ := fits.exists_group
  obtain ⟨node, read⟩ := isPattern_iff.mp row
  have inRow := group.eq_concat_of_pattern?_row read
  have ends : node.ends s.toList.toArray [i] = (Node.look .textEnd).ends s.toList.toArray
      (inner.node.ends s.toList.toArray ((Node.look .textStart).ends s.toList.toArray [i])) := by
    rw [inRow, ends_concat]
    rfl
  have atEnd : (j ∈ node.ends s.toList.toArray [i]) ↔
      j ∈ inner.node.ends s.toList.toArray ((Node.look .textStart).ends s.toList.toArray [i]) ∧
        j = s.length := by
    rw [ends, Node.ends, List.mem_filter]
    simp [Look.holds, String.length_toList]
  rw [spans_iff read, atEnd]
  simp only [spans_caret, spans_dollar, spans_iff (group.pattern?_grouped shallow)]
  by_cases start : i = 0
  · subst start
    have atStart : (Node.look .textStart).ends s.toList.toArray [0] = [0] := rfl
    rw [atStart]
    grind
  · have nowhere : (Node.look .textStart).ends s.toList.toArray [i] = [] := by
      simp [Node.ends, Look.holds, start]
    rw [nowhere, (additive_ends _ _).eq_nil]
    simp [start]

/-- The standard engine keeps the rules on which full matches rest. -/
theorem documented : Documented StandardSpans where
  source read := by
    obtain ⟨node, -, rfl⟩ := pattern?_of_read read
    rfl
  found read s := by
    obtain ⟨node, found, rfl⟩ := pattern?_of_read read
    rw [isMatch_iff]
    simp only [spans_iff found]
  caret := spans_caret
  dollar := spans_dollar
  group := spans_grouped
  row := spans_row
  closed {t} isPattern := by
    obtain ⟨node, read⟩ := isPattern_iff.mp isPattern
    obtain ⟨piece, groups, rest, whole, shallow, -⟩ := pattern?_eq_some_iff.mp read
    have text : ("^(?:" ++ t).toList = '^' :: '(' :: '?' :: ':' :: t.toList := by simp
    have fuel : 2 * ("^(?:" ++ t).toList.length + 2 = 2 * t.toList.length + 8 + 1 + 1 := by
      simp [text]
      omega
    rw [fuel, text, readGroup_caret] at whole
    obtain ⟨u, after, inner, groups', found, group, deep⟩ := exists_group_of_readGroup_open whole
    have within := deep.trans shallow
    refine ⟨String.ofList u, String.ofList after, ?_,
      isPattern_iff.mpr ⟨_, group.pattern?_eq ((Nat.le_add_left _ _).trans within)⟩,
      isPattern_iff.mpr ⟨_, group.pattern?_grouped within⟩⟩
    rw [← String.toList_inj]
    simp [← found]
  unopened {p u} fits := by
    obtain ⟨inner, groups, group, -⟩ := fits.exists_group
    rw [isPattern_iff, group.pattern?_append]
    rintro ⟨_, ⟨⟩⟩

end Remap.Regex
