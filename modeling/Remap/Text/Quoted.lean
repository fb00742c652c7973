/-!
# Quoted text

A quote inside a quoted text is written twice. Main statement: reading what was written gives the
text back, whatever follows it unless that is another quote.
-/

namespace Remap.Text

/-- The characters with every quote doubled. -/
def doubleQuotes (quote : Char) : List Char → List Char
  | [] => []
  | c :: cs =>
    if c = quote then quote :: quote :: doubleQuotes quote cs else c :: doubleQuotes quote cs

/-- A quoted text after its opening quote: the text, and what follows the closing quote. -/
def readQuoted (quote : Char) : List Char → Option (List Char × List Char)
  | [] => none
  | [c] => if c = quote then some ([], []) else none
  | c :: d :: rest =>
    if c = quote then
      if d = quote then (readQuoted quote rest).map fun (text, rest) => (quote :: text, rest)
      else some ([], d :: rest)
    else (readQuoted quote (d :: rest)).map fun (text, rest) => (c :: text, rest)

theorem readQuoted_cons_of_ne {quote c : Char} (cs : List Char) (h : c ≠ quote) :
    readQuoted quote (c :: cs) =
      (readQuoted quote cs).map fun (text, rest) => (c :: text, rest) := by
  cases cs with
  | nil => simp [readQuoted, h]
  | cons d rest => simp [readQuoted, h]

/-- A quoted text is read back from its written form. -/
theorem readQuoted_doubleQuotes (quote : Char) (text rest : List Char)
    (h : rest.head? ≠ some quote) :
    readQuoted quote (doubleQuotes quote text ++ quote :: rest) = some (text, rest) := by
  induction text with
  | nil =>
    cases rest with
    | nil => simp [doubleQuotes, readQuoted]
    | cons d rest =>
      have hd : d ≠ quote := by simpa using h
      simp [doubleQuotes, readQuoted, hd]
  | cons c cs ih =>
    by_cases hc : c = quote
    · simp [doubleQuotes, readQuoted, hc, ih]
    · simp [doubleQuotes, readQuoted_cons_of_ne, hc, ih]

end Remap.Text
