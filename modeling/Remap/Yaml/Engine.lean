import Remap.Datum.Basic

/-!
# Engines for documents

How data are printed as a document, and how the parts of a document show, is the matter of an
engine. What is read from documents is told by a reader for all forms alike; the engine runs the
reader on the form of the document.
-/

namespace Remap.Yaml

/-- Why a text cannot be read as one document. -/
inductive ReadFault
  /-- It is not well-formed, or not what is asked for. -/
  | malformed
  /-- There is more after the first document. -/
  | moreThanOne
  /-- Aliases repeat too much. -/
  | repetition
  deriving DecidableEq, Repr

/-- Whether the fault is at a place of the text. -/
def ReadFault.isLocated : ReadFault → Bool
  | .malformed => true
  | .moreThanOne => false
  | .repetition => false

/-- What reads a value, in whatever form its parts show. -/
structure Reader (β : Type) where
  read : {m : Type → Type} → [Monad m] → {α : Type} → TaggedForm m α → α → m β

/-- What prints data and reads documents. -/
class Engine where
  /-- The document of data. -/
  print : Datum → String
  /-- What a reader makes of a document. -/
  read : {β : Type} → Reader β → String → Except ReadFault β

end Remap.Yaml
