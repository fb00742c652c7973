import Remap.Mapping.Result
import Remap.Model.Registry

/-!
# Failures of a command

A failure is a sentence and the causes behind it, the nearest one first. Its text lists the causes
below the sentence, indented, and numbered when there are several.
-/

namespace Remap

/-- A sentence and the causes behind it. -/
structure Failure where
  message : String
  causes : List String := []
  deriving DecidableEq, Repr

namespace Failure

/-- A failure as the cause of another one. -/
def within (f : Failure) (message : String) : Failure := ⟨message, f.message :: f.causes⟩

/-- The failure of a mapping; some have a cause of their own. -/
def ofMapping (e : MappingError) : Failure :=
  match e with
  | .configuration _ _ cause => ⟨e.message, [cause.text]⟩
  | .model cause => ⟨e.message, [cause.message]⟩
  | .invalidConfiguration _ => ⟨e.message, []⟩
  | .missingArgument _ => ⟨e.message, []⟩
  | .failures _ => ⟨e.message, []⟩

/-- The failure of a value that does not fit its type. -/
def ofModel (e : ModelError) : Failure := ⟨e.message, []⟩

/-- A text with the start of its first line and the start of all other lines. -/
def indented (first others : String) (s : String) : String :=
  first ++ ("\n" ++ others).intercalate (s.splitOn "\n")

/-- Causes with their numbers. -/
def numbered : (number : Nat) → List String → List String
  | _, [] => []
  | n, cause :: rest =>
    indented ("    " ++ toString n ++ ": ") "       " cause :: numbered (n + 1) rest

/-- The text of a failure. -/
def text (f : Failure) : String :=
  let causes := match f.causes with
    | [] => []
    | [cause] => [indented "    " "    " cause]
    | causes => numbered 0 causes
  let lines := if causes.isEmpty then [] else "" :: "Caused by:" :: causes
  "Error: " ++ "\n".intercalate (f.message :: lines) ++ "\n"

end Failure

end Remap
