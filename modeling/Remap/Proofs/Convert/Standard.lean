import Remap.Convert.Standard
import Remap.Proofs.Fallible

/-!
# What standard converters give

A standard converter gives a scalar of the kind that it is registered for, or null. Each kind is
told by the declared type that accepts it. A value that it does not take is refused, and there is
no other way for it to fail.
-/

namespace Remap.Standard

variable {v w : Value}

/-- A blank text is read as null, which every type accepts; so what is read from the other texts
decides. -/
theorem accepts_of_text {t : FieldType} {kind : String}
    {read : List Char → Except ConversionError Value}
    (fits : ∀ cs w, read cs = .ok w → t.accepts w = true)
    (result : (do
      let cs ← textOf v kind
      if cs.isEmpty then return Value.null
      read cs) = .ok w) : t.accepts w = true := by
  obtain ⟨cs, -, result⟩ := bind_eq_ok.mp result
  split at result
  · cases result
    rfl
  · exact fits cs w result

theorem textToInteger_accepts (converted : textToInteger v = .ok w) :
    FieldType.integer.accepts w = true := by
  refine accepts_of_text (fun cs w read => ?_) converted
  split at read <;> cases read
  rfl

theorem textToDecimal_accepts (converted : textToDecimal v = .ok w) :
    FieldType.decimal.accepts w = true := by
  refine accepts_of_text (fun cs w read => ?_) converted
  split at read <;> cases read
  rfl

theorem textToBoolean_accepts (converted : textToBoolean v = .ok w) :
    FieldType.boolean.accepts w = true := by
  refine accepts_of_text (fun cs w read => ?_) converted
  split at read <;> cases read
  rfl

theorem numberToDecimal_accepts (converted : numberToDecimal v = .ok w) :
    FieldType.decimal.accepts w = true := by
  unfold numberToDecimal at converted
  split at converted <;> cases converted
  rfl

theorem decimalToInteger_accepts (converted : decimalToInteger v = .ok w) :
    FieldType.integer.accepts w = true := by
  unfold decimalToInteger at converted
  repeat' split at converted
  all_goals cases converted
  rfl

theorem scalarToText_accepts (converted : scalarToText v = .ok w) :
    FieldType.string.accepts w = true := by
  unfold scalarToText at converted
  split at converted <;> cases converted
  rfl

/-! ## Refusals -/

/-- The function fails on the values that it does not take, and in no other way. -/
def OnlyRefuses (f : Value → Except ConversionError Value) : Prop :=
  ∀ v e, f v = .error e → ∃ source target message, e = .failed source target message

/-- What is no text is refused at once, so what reads the texts decides. -/
theorem onlyRefuses_of_text {kind : String} {read : List Char → Except ConversionError Value}
    (refuses : ∀ cs e, read cs = .error e →
      ∃ source target message, e = .failed source target message) :
    OnlyRefuses (fun v => do
      let cs ← textOf v kind
      if cs.isEmpty then return Value.null
      read cs) := by
  intro v e failed
  cases v with
  | string s =>
    change (if _ then Except.ok Value.null else read _) = .error e at failed
    split at failed
    · cases failed
    · exact refuses _ e failed
  | _ =>
    cases failed
    exact ⟨_, _, _, rfl⟩

theorem onlyRefuses_textToInteger : OnlyRefuses textToInteger := by
  refine onlyRefuses_of_text fun cs e failed => ?_
  split at failed <;> cases failed
  exact ⟨_, _, _, rfl⟩

theorem onlyRefuses_textToDecimal : OnlyRefuses textToDecimal := by
  refine onlyRefuses_of_text fun cs e failed => ?_
  split at failed <;> cases failed
  exact ⟨_, _, _, rfl⟩

theorem onlyRefuses_textToBoolean : OnlyRefuses textToBoolean := by
  refine onlyRefuses_of_text fun cs e failed => ?_
  split at failed <;> cases failed
  exact ⟨_, _, _, rfl⟩

theorem onlyRefuses_numberToDecimal : OnlyRefuses numberToDecimal := by
  intro v e failed
  unfold numberToDecimal at failed
  split at failed <;> cases failed
  exact ⟨_, _, _, rfl⟩

theorem onlyRefuses_decimalToInteger : OnlyRefuses decimalToInteger := by
  intro v e failed
  unfold decimalToInteger at failed
  repeat' split at failed
  all_goals cases failed
  all_goals exact ⟨_, _, _, rfl⟩

theorem onlyRefuses_scalarToText : OnlyRefuses scalarToText := by
  intro v e failed
  unfold scalarToText at failed
  split at failed <;> cases failed
  exact ⟨_, _, _, rfl⟩

end Remap.Standard
