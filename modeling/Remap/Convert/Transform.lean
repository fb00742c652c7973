import Remap.Model.Value
import Remap.Text.Case
import Remap.Text.Blank
import Remap.Text.Split

/-!
# Transforms

Named operations on a value that a mapping can ask for. Null passes through all of them but the
one that replaces it. Joining works on records and lists, the others on scalars as text.
-/

namespace Remap

/-- Why a value was not converted. -/
inductive ConversionError
  /-- Nothing converts between the two kinds. -/
  | noConverter (source target : String)
  /-- A converter refused the value. -/
  | failed (source target message : String)
  /-- A transform refused the value. -/
  | transform (message : String)
  deriving DecidableEq, Repr

/-- The sentence for a conversion error. -/
def ConversionError.message : ConversionError → String
  | .noConverter source target => "No converter from " ++ source ++ " to " ++ target
  | .failed source target message =>
    "Cannot convert " ++ source ++ " to " ++ target ++ ": " ++ message
  | .transform message => "Transform error: " ++ message

/-- An operation on a value. -/
inductive Transform
  | uppercase
  | lowercase
  /-- Without blanks at both ends. -/
  | trim
  /-- A text in place of null and of the empty text. -/
  | defaultTo (value : String)
  /-- A number with a fixed count of places, and a separator between groups of three digits. -/
  | numberFormat (decimals : UInt32) (separator : Option String)
  /-- One part of a delimited text. -/
  | split (delimiter : String) (index : UInt64)
  /-- The texts of the non-null values of a record or list, with a separator between them. -/
  | concatenate (separator : Option String)
  /-- One after the other. -/
  | chain (transforms : List Transform)
  deriving Inhabited, Repr

namespace Transform

mutual
/-- Equality of transforms. -/
def same : Transform → Transform → Bool
  | .uppercase, .uppercase => true
  | .lowercase, .lowercase => true
  | .trim, .trim => true
  | .defaultTo a, .defaultTo b => a == b
  | .numberFormat m a, .numberFormat n b => m == n && a == b
  | .split c i, .split d j => c == d && i == j
  | .concatenate a, .concatenate b => a == b
  | .chain as, .chain bs => sameAll as bs
  | _, _ => false

/-- Equality of lists of transforms. -/
def sameAll : List Transform → List Transform → Bool
  | [], [] => true
  | a :: as, b :: bs => same a b && sameAll as bs
  | _, _ => false
end

mutual

theorem same_iff : ∀ a b : Transform, a.same b = true ↔ a = b
  | .uppercase, b => by cases b <;> simp [same]
  | .lowercase, b => by cases b <;> simp [same]
  | .trim, b => by cases b <;> simp [same]
  | .defaultTo _, b => by cases b <;> simp [same]
  | .numberFormat _ _, b => by cases b <;> simp [same]
  | .split _ _, b => by cases b <;> simp [same]
  | .concatenate _, b => by cases b <;> simp [same]
  | .chain as, b => by
    cases b with
    | chain bs => simp [same, sameAll_iff as bs]
    | _ => simp [same]

theorem sameAll_iff : ∀ as bs : List Transform, sameAll as bs = true ↔ as = bs
  | [], bs => by cases bs <;> simp [sameAll]
  | a :: as, bs => by
    cases bs with
    | nil => simp [sameAll]
    | cons b bs => simp [sameAll, same_iff a b, sameAll_iff as bs]

end

instance : DecidableEq Transform := fun a b => decidable_of_iff _ (same_iff a b)

/-- The most places a number is written with; a double carries no more. -/
def maxDecimals : Nat := 17

/-- The digits of a number in groups of three from the right. -/
def groupThousands (separator : List Char) : List Char → List Char
  | [] => []
  | [c] => [c]
  | c :: d :: rest =>
    if (d :: rest).length % 3 == 0 then c :: separator ++ groupThousands separator (d :: rest)
    else c :: groupThousands separator (d :: rest)

/-- A written number with its whole part grouped; the sign and the places stay. -/
def groupNumber (separator : String) (number : String) : String :=
  let cs := number.toList
  let (sign, body) := match cs with
    | '-' :: body => (['-'], body)
    | body => ([], body)
  let whole := body.takeWhile (· != '.')
  let rest := body.dropWhile (· != '.')
  String.ofList (sign ++ groupThousands separator.toList whole ++ rest)

/-- A scalar as text under an operation on texts; null stays null. -/
def onText (verb : String) (f : String → String) (v : Value) : Except ConversionError Value :=
  if v.isNull then .ok .null
  else
    match v.asText? with
    | some s => .ok (.string (f s))
    | none => .error (.transform ("Cannot " ++ verb ++ " a " ++ v.kind))

/-- The number to be formatted: a number, or a text that reads as one. -/
def numberOf (v : Value) : Except ConversionError Float :=
  match v with
  | .string s =>
    match Number.read (Text.trimChars s.toList) with
    | some x => .ok x
    | none => .error (.transform ("Cannot parse '" ++ s ++ "' as number"))
  | other =>
    match other.asDecimal? with
    | some x => .ok x
    | none => .error (.transform ("Cannot format a " ++ other.kind ++ " as number"))

/-- A number with a fixed count of places, grouped if a separator is given. -/
def formatNumber (decimals : Nat) (separator : Option String) (v : Value) :
    Except ConversionError Value :=
  if v.isNull then .ok .null
  else if maxDecimals < decimals then
    .error (.transform ("Cannot format with " ++ toString decimals ++ " decimals (at most " ++
      toString maxDecimals ++ ")"))
  else do
    let x ← numberOf v
    let rounded := Number.fixedText decimals x
    return .string (match separator with
      | some s => groupNumber s rounded
      | none => rounded)

/-- One part of a delimited text. -/
def splitValue (delimiter : String) (index : Nat) (v : Value) : Except ConversionError Value :=
  if v.isNull then .ok .null
  else
    match v.asText? with
    | none => .error (.transform ("Cannot split a " ++ v.kind))
    | some s =>
      let parts := Text.splitOn delimiter.toList s.toList
      match parts[index]? with
      | some part => .ok (.string (String.ofList part))
      | none =>
        .error (.transform ("Split index " ++ toString index ++ " out of bounds (" ++
          toString parts.length ++ " parts)"))

/-- The texts of the values that are not null. -/
def presentTexts (vs : List Value) : List String :=
  (vs.filter fun v => !v.isNull).map Value.text

/-- The texts of the non-null values of a record or list joined, or the text of a scalar. -/
def concatenateValue (separator : String) (v : Value) : Value :=
  match v with
  | .null => .null
  | .record r => .string (separator.intercalate (presentTexts (r.fields.map (·.2))))
  | .list items => .string (separator.intercalate (presentTexts items))
  | scalar => .string scalar.text

mutual
/-- The result of a transform. -/
def apply : Transform → Value → Except ConversionError Value
  | .uppercase, v => onText "uppercase" Text.upper v
  | .lowercase, v => onText "lowercase" Text.lower v
  | .trim, v => onText "trim" Text.trim v
  | .defaultTo value, v =>
    match v with
    | .null => .ok (.string value)
    | .string s => .ok (.string (if s.isEmpty then value else s))
    | other => .ok other
  | .numberFormat decimals separator, v => formatNumber decimals.toNat separator v
  | .split delimiter index, v => splitValue delimiter index.toNat v
  | .concatenate separator, v => .ok (concatenateValue (separator.getD "") v)
  | .chain transforms, v => applyAll transforms v

/-- The result of several transforms one after the other. -/
def applyAll : List Transform → Value → Except ConversionError Value
  | [], v => .ok v
  | t :: rest, v => do
    let w ← apply t v
    applyAll rest w
end

end Transform

end Remap
