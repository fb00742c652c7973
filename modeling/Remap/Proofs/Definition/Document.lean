import Remap.Definition.Document
import Remap.Proofs.Definition.Encoding
import Remap.Proofs.Yaml.Standard

/-!
# Definitions written as documents and read back

A definition is written as data, and the data are printed. That a printed document reads back as
the data is taken from the engine (`Yaml.ReadsBack`); that the definition is found in the data, in
whatever form they show, is shown here.

Main statement: a definition reads back from its data, inside a rule or outside, and from its
document.
-/

namespace Remap

namespace Definition

theorem word_mem_ruleWords (rule : Rule) : word rule ∈ ruleWords := by
  cases rule
  all_goals simp [word, ruleWords]

theorem type_notMem_ruleSlots (rule : Rule) : "type" ∉ (ruleSlots rule).map (·.1) := by
  cases rule
  all_goals simp [ruleSlots]

/-- Rules are found where they show. -/
theorem finds_rules {m : Type → Type} [Monad m] [LawfulMonad m] {α : Type} {f : TaggedForm m α}
    {shows : α → Datum → Prop} (lawful : f.Lawful shows) (rules : List Rule) :
    Form.Finds shows (readRules f) (.list (encodeRules rules)) fun d => { d with rules } := by
  refine (lawful.list ?_).map _
  induction rules with
  | nil => exact .nil
  | cons rule rest ih =>
    refine .cons (fun a shown => ?_) ih
    rw [encodeRule_eq] at shown
    have read := lawful.tagged (word_mem_ruleWords rule) (type_notMem_ruleSlots rule) a shown
    simp only [read, pure_bind, ← encodeRule_eq, decodeRule_encodeRule]

/-- A definition is found in its data. -/
theorem finds_reader (d : Definition) : reader.Finds d.encode d := by
  intro m _ _ α f shows lawful
  have found := d.finds lawful.toLawful (finds_rules lawful d.rules)
  obtain ⟨_, _, _, _, _, _, _, _⟩ := d
  exact found

/-- A definition survives being written and read: as data, in the strict form and in the lenient
one, and as a document, if the printed data read back. -/
theorem reads_back [Yaml.Engine] (d : Definition) :
    (∀ lenient, decode lenient d.encode = some d) ∧
      (Yaml.ReadsBack d.encode → ofDocument d.document = .ok d) :=
  ⟨fun lenient => decode_encode lenient d, fun readsBack => readsBack _ reader d d.finds_reader⟩

end Definition

namespace Shipment

/-- Labels the city of a parcel as its port. -/
def relabelling : Definition where
  rules := [.field "city" "port" (some (.chain [.trim])) none]

theorem relabelling_reads_back :
    Yaml.ReadsBack relabelling.encode ∧
      Definition.ofDocument relabelling.document = .ok relabelling := by
  have seen : Yaml.seenToReadBack relabelling.encode = true := by decide +kernel
  have readsBack := Yaml.readsBack_of_seen seen
  exact ⟨readsBack, relabelling.reads_back.2 readsBack⟩

end Shipment

end Remap
