import Remap.Convert.Transform
import Remap.Mapping.Mapper

/-!
# Definitions

A mapper as it is written down: the record types it speaks of, the settings, and the rules.
Definitions can stand inside rules.
-/

namespace Remap

/-- The kind of a declared field. -/
inductive FieldKind
  | any | boolean | integer | decimal | string | list | record
  deriving DecidableEq, Repr, Inhabited

/-- A declared field. -/
structure FieldDefinition where
  name : String
  kind : FieldKind := .any
  /-- The name of the record type, for the kind `record`. -/
  of : Option String := none
  writable : Bool := true
  deriving DecidableEq, Repr, Inhabited

/-- A declared record type. -/
structure TypeDefinition where
  name : String
  fields : List FieldDefinition := []
  deriving DecidableEq, Repr, Inhabited

/-- A rule; `δ` is what stands for a definition inside it. -/
inductive RuleOf (δ : Type)
  /-- One source value to one place of the target. -/
  | field (source target : String) (transform : Option Transform) (condition : Option String)
  /-- One source value onto the whole target. -/
  | fanOut (source : String) (mapping : δ) (condition : Option String)
  /-- The whole source onto the whole target; the listed fields count as mapped. -/
  | multiSource (sources : List String) (mapping : δ) (condition : Option String)
  /-- Several source values to one place of the target. -/
  | assemble (sources : List String) (target : String) (assembler : Transform)
      (condition : Option String)
  /-- The source fields below a stem to one place of the target. -/
  | nestedFields (stem target : String) (assembler : Transform) (condition : Option String)
  /-- How records of one type become records of another one, wherever that is needed. -/
  | nested (mapping : δ)
  deriving DecidableEq

/-- A mapper as it is written down. -/
structure Definition where
  name : String := ""
  sourceType : Option String := none
  targetType : Option String := none
  autoMapping : Bool := true
  policy : FailurePolicy := .raise
  /-- Source fields that are never copied by name. -/
  excluded : List String := []
  types : List TypeDefinition := []
  rules : List (RuleOf Definition) := []

/-- A rule. -/
abbrev Rule := RuleOf Definition

instance : Inhabited Definition := ⟨{}⟩

namespace Definition

mutual
/-- Equality of definitions. -/
def same : Definition → Definition → Bool
  | ⟨n, s, t, a, p, x, ts, rs⟩, ⟨n', s', t', a', p', x', ts', rs'⟩ =>
    n == n' && s == s' && t == t' && a == a' && p == p' && x == x' && ts == ts' && sameRules rs rs'

/-- Equality of lists of rules. -/
def sameRules : List (RuleOf Definition) → List (RuleOf Definition) → Bool
  | [], [] => true
  | a :: as, b :: bs => sameRule a b && sameRules as bs
  | _, _ => false

/-- Equality of rules. -/
def sameRule : RuleOf Definition → RuleOf Definition → Bool
  | .field s t f c, .field s' t' f' c' =>
    s == s' && t == t' && c == c' &&
      (match f, f' with
      | none, none => true
      | some f, some f' => f.same f'
      | _, _ => false)
  | .fanOut s m c, .fanOut s' m' c' => s == s' && same m m' && c == c'
  | .multiSource s m c, .multiSource s' m' c' => s == s' && same m m' && c == c'
  | .assemble s t f c, .assemble s' t' f' c' => s == s' && t == t' && f.same f' && c == c'
  | .nestedFields s t f c, .nestedFields s' t' f' c' => s == s' && t == t' && f.same f' && c == c'
  | .nested m, .nested m' => same m m'
  | _, _ => false
end

end Definition

end Remap
