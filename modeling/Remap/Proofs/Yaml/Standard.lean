import Remap.Proofs.Yaml.Documented
import Remap.Proofs.Yaml.Plain
import Remap.Yaml.Reader

/-!
# The standard engine

Data are read back from their document if the document is one tree that shows them, and nothing
else. That can be tested.
-/

namespace Remap

namespace Datum

mutual

/-- Whether two trees are seen to be the same. Equality of decimals is not decided, so no two of
them are. -/
def same : Datum → Datum → Bool
  | .null, .null => true
  | .boolean b, .boolean b' => b == b'
  | .natural n, .natural n' => n == n'
  | .negative n, .negative n' => n == n'
  | .text s, .text s' => s == s'
  | .list ds, .list ds' => sameItems ds ds'
  | .table entries, .table entries' => sameEntries entries entries'
  | _, _ => false

/-- The same for items. -/
def sameItems : List Datum → List Datum → Bool
  | [], [] => true
  | d :: ds, d' :: ds' => same d d' && sameItems ds ds'
  | _, _ => false

/-- The same for entries. -/
def sameEntries : List (Key × Datum) → List (Key × Datum) → Bool
  | [], [] => true
  | (key, d) :: entries, (key', d') :: entries' =>
    key == key' && same d d' && sameEntries entries entries'
  | _, _ => false

end

mutual

theorem eq_of_same : ∀ {d d' : Datum}, d.same d' = true → d = d'
  | .null, .null, _ => rfl
  | .boolean _, .boolean _, h => congrArg _ (eq_of_beq h)
  | .natural _, .natural _, h => congrArg _ (eq_of_beq h)
  | .negative _, .negative _, h => congrArg _ (eq_of_beq h)
  | .text _, .text _, h => congrArg _ (eq_of_beq h)
  | .list _, .list _, h => congrArg _ (eq_of_sameItems h)
  | .table _, .table _, h => congrArg _ (eq_of_sameEntries h)

theorem eq_of_sameItems : ∀ {ds ds' : List Datum}, sameItems ds ds' = true → ds = ds'
  | [], [], _ => rfl
  | _ :: _, _ :: _, h => by
    obtain ⟨first, rest⟩ := Bool.and_eq_true_iff.mp h
    rw [eq_of_same first, eq_of_sameItems rest]

theorem eq_of_sameEntries :
    ∀ {es es' : List (Key × Datum)}, sameEntries es es' = true → es = es'
  | [], [], _ => rfl
  | (_, _) :: _, (_, _) :: _, h => by
    obtain ⟨first, rest⟩ := Bool.and_eq_true_iff.mp h
    obtain ⟨key, value⟩ := Bool.and_eq_true_iff.mp first
    rw [eq_of_beq key, eq_of_same value, eq_of_sameEntries rest]

end

end Datum

namespace Yaml

/-- What a reader finds in the data is what it makes of a document that shows them. -/
theorem readsBack_of_shows {d : Datum} {node : Node} (read : firstDocument (print d) = (node, none))
    (shown : node.Shows depthLimit d) : ReadsBack d := by
  intro β reader b finds
  have found := finds (Site.form (targets node [])) Site.Shows (Site.form_lawful _)
    ⟨node, depthLimit⟩ shown
  change readText reader (print d) = _
  simp only [readText, read, readTree, found, StateT.run_pure, pure_bind]

/-- Whether the printed data are seen to read back. -/
def seenToReadBack (d : Datum) : Bool :=
  match firstDocument (print d) with
  | (node, none) => (node.plainDatum? depthLimit).any (·.same d)
  | (_, some _) => false

theorem readsBack_of_seen {d : Datum} (seen : seenToReadBack d = true) : ReadsBack d := by
  unfold seenToReadBack at seen
  split at seen
  · next node read =>
    obtain ⟨d', shown, same⟩ := (Option.any_eq_true _ _).mp seen
    obtain rfl := Datum.eq_of_same same
    exact readsBack_of_shows read shown
  · cases seen

end Yaml

end Remap
