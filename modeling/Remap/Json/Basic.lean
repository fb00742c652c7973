import Remap.Number.Text

/-!
# Data documents

The tree that a data document is read into. Whole numbers and floating numbers are told apart;
the members of an object stand in ascending order of their names, each name once.
-/

namespace Remap

/-- A data document. -/
inductive Json
  | null
  | boolean (b : Bool)
  | integer (n : Int)
  | float (x : Float)
  | string (s : String)
  | array (items : List Json)
  | object (members : List (String × Json))
  deriving Inhabited

namespace Json

/-- Members in ascending order with one more; the last content given for a name counts. -/
def putMember {α : Type} : List (String × α) → String → α → List (String × α)
  | [], name, a => [(name, a)]
  | (n, b) :: rest, name, a =>
    if name < n then (name, a) :: (n, b) :: rest
    else if name = n then (n, a) :: rest
    else (n, b) :: putMember rest name a

/-- Members stored one after the other. -/
def sortMembers {α : Type} (members : List (String × α)) : List (String × α) :=
  members.foldl (fun sorted m => putMember sorted m.1 m.2) []

end Json

end Remap
