import Remap.Datum.Basic
import Remap.Json.Basic

/-!
# Data trees and data documents

A data document is a data tree whose keys are names, and a data tree whose keys are names is a
data document.
-/

namespace Remap

mutual
/-- The data tree of a document. -/
def Datum.ofJson : Json → Datum
  | .null => .null
  | .boolean b => .boolean b
  | .integer n => .ofInt n
  | .float x => .decimal x
  | .string s => .text s
  | .array items => .list (Datum.ofJsonItems items)
  | .object members => .table (Datum.ofJsonMembers members)

/-- The data trees of the items of an array. -/
def Datum.ofJsonItems : List Json → List Datum
  | [] => []
  | j :: rest => Datum.ofJson j :: Datum.ofJsonItems rest

/-- The entries of an object. -/
def Datum.ofJsonMembers : List (String × Json) → List (Key × Datum)
  | [] => []
  | (name, j) :: rest => (.name name, Datum.ofJson j) :: Datum.ofJsonMembers rest
end

mutual
/-- The document of a data tree; entries without a name are left out. -/
def Datum.toJson : Datum → Json
  | .null => .null
  | .boolean b => .boolean b
  | .natural n => .integer n
  | .negative n => .integer (-n)
  | .decimal x => if x.isFinite then .float x else .null
  | .text s => .string s
  | .list items => .array (Datum.toJsonItems items)
  | .table entries => .object (Json.sortMembers (Datum.toJsonMembers entries))

/-- The documents of the items of a list. -/
def Datum.toJsonItems : List Datum → List Json
  | [] => []
  | d :: rest => Datum.toJson d :: Datum.toJsonItems rest

/-- The members of a table. -/
def Datum.toJsonMembers : List (Key × Datum) → List (String × Json)
  | [] => []
  | (.name name, d) :: rest => (name, Datum.toJson d) :: Datum.toJsonMembers rest
  | (_, _) :: rest => Datum.toJsonMembers rest
end

end Remap
