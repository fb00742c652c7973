import Remap.Proofs.Datum.Tables
import Remap.Yaml.Engine

/-!
# What engines document

An engine prints data so that they are read back: `Engine.ReadsBack` says so of one tree of data,
with all that can be read from it.
-/

namespace Remap

/-- The parts of a form show data, and the tagged choices among them show as they are. -/
structure TaggedForm.Lawful {m : Type → Type} [Monad m] {α : Type} (f : TaggedForm m α)
    (shows : α → Datum → Prop) : Prop extends f.toForm.Lawful shows where
  tagged : ∀ {name word : String} {words : List String} {fields : List (String × Option Datum)},
    word ∈ words → name ∉ fields.map (·.1) →
      Form.Finds shows (f.tagged name words)
        (.table ((.name name, .text word) :: Datum.rows fields))
        (.table ((.name name, .text word) :: Datum.rows fields))

namespace Yaml

/-- The reader finds a value in the data, in whatever form they show. -/
def Reader.Finds {β : Type} (reader : Reader β) (d : Datum) (b : β) : Prop :=
  ∀ {m : Type → Type} [Monad m] [LawfulMonad m] {α : Type} (f : TaggedForm m α)
    (shows : α → Datum → Prop), f.Lawful shows → Form.Finds shows (reader.read f) d b

/-- The printed data read back: what a reader finds in the data, it makes of their document. -/
def ReadsBack [Engine] (d : Datum) : Prop :=
  ∀ (β : Type) (reader : Reader β) (b : β), reader.Finds d b →
    Engine.read reader (Engine.print d) = .ok b

end Yaml

end Remap
