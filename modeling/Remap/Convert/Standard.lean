import Remap.Convert.Registry

/-!
# Standard converters

Texts read as integers, decimals and truth values, a blank text as null. Integers widen to
decimals; a decimal narrows to an integer only without a fraction and in range. Scalars are
written as text.
-/

namespace Remap.Standard

/-- A text without its surrounding blanks, or a failure for another kind. -/
def textOf (v : Value) (target : String) : Except ConversionError (List Char) :=
  match v with
  | .string s => .ok (Text.trimChars s.toList)
  | other => .error (.failed other.kind target "expected a string")

/-- A text as an integer. -/
def textToInteger (v : Value) : Except ConversionError Value := do
  let cs ← textOf v "integer"
  if cs.isEmpty then return .null
  match Integer.read cs with
  | .ok n => return .integer n
  | .error e =>
    throw (.failed "string" "integer" ("'" ++ String.ofList cs ++ "': " ++ e.message))

/-- A text as a decimal. -/
def textToDecimal (v : Value) : Except ConversionError Value := do
  let cs ← textOf v "decimal"
  if cs.isEmpty then return .null
  match Number.read cs with
  | some x => return .decimal x
  | none =>
    throw (.failed "string" "decimal" ("'" ++ String.ofList cs ++ "': invalid float literal"))

/-- The truth value that a word stands for. -/
def truthOfWord? : String → Option Bool
  | "true" | "on" | "yes" | "1" => some true
  | "false" | "off" | "no" | "0" => some false
  | _ => none

/-- A text as a truth value, whatever the case of its letters. -/
def textToBoolean (v : Value) : Except ConversionError Value := do
  let cs ← textOf v "boolean"
  if cs.isEmpty then return .null
  match truthOfWord? (String.ofList (cs.map Char.toLower)) with
  | some b => return .boolean b
  | none =>
    throw (.failed "string" "boolean" ("'" ++ String.ofList cs ++ "' is not a boolean"))

/-- A number as a decimal. -/
def numberToDecimal (v : Value) : Except ConversionError Value :=
  match v.asDecimal? with
  | some x => .ok (.decimal x)
  | none => .error (.failed v.kind "decimal" "expected an integer")

/-- A decimal without a fraction as an integer. -/
def decimalToInteger (v : Value) : Except ConversionError Value :=
  match v with
  | .decimal x =>
    match (Number.Binary.ofFloat x).toInt? with
    | none => .error (.failed "decimal" "integer" (Number.text x ++ " is not integral"))
    | some n =>
      match Integer.ofInt? n with
      | some i => .ok (.integer i)
      | none => .error (.failed "decimal" "integer" (Number.text x ++ " is out of range"))
  | other => .error (.failed other.kind "integer" "expected a decimal")

/-- A scalar as text. -/
def scalarToText (v : Value) : Except ConversionError Value :=
  match v.asText? with
  | some s => .ok (.string s)
  | none => .error (.failed v.kind "string" "expected a scalar")

/-- A function on values as a converter to any declared type. -/
def plain {m : Type → Type} [Monad m] (f : Value → Except ConversionError Value) :
    TypedConverter m :=
  fun v _ => liftExcept (f v)
where
  /-- A result inside the effects of `m`. -/
  liftExcept (r : Except ConversionError Value) : ExceptT ConversionError m Value :=
    ExceptT.mk (pure r)

end Remap.Standard

namespace Remap

/-- The registry of the standard converters. -/
def ConversionRegistry.standard {m : Type → Type} [Monad m] : ConversionRegistry m :=
  let add (source target : TypeKey) (f : Value → Except ConversionError Value)
      (r : ConversionRegistry m) := r.add source target (Standard.plain f)
  ConversionRegistry.empty
    |> add .string .integer Standard.textToInteger
    |> add .string .decimal Standard.textToDecimal
    |> add .string .boolean Standard.textToBoolean
    |> add .integer .decimal Standard.numberToDecimal
    |> add .decimal .integer Standard.decimalToInteger
    |> add .integer .string Standard.scalarToText
    |> add .decimal .string Standard.scalarToText
    |> add .boolean .string Standard.scalarToText

end Remap
