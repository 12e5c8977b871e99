import Postmortem.Text.Numeral
import Postmortem.Text.Search
import Postmortem.Text.Blank

/-!
# Fields of records

Lines of the form `Label: value`, placeholders that stand for missing values, and counts with
thousands separators.
-/

namespace Postmortem.Text

/-- The texts that a debugger prints where it has no value. -/
def placeholders : List String := ["", "<none>", "<NULL>", "<null>", "<no data>", "(null)"]

/-- The trimmed text, unless it stands for a missing value. -/
def value? (cs : List Char) : Option String :=
  let s := String.ofList (trim cs)
  if placeholders.contains s then none else some s

/-- The greatest length of a label in bytes. -/
def maxLabelLength : Nat := 40

/-- The label and the value of a line, around its first colon. A label is neither empty nor
long. -/
def labelled? (cs : List Char) : Option (String × List Char) := do
  let (label, value) ← cutAt? [':'] cs
  let label := trim label
  guard (!label.isEmpty && byteLength label ≤ maxLabelLength)
  return (.ofList label, trim value)

/-- Whether a character may separate groups of digits in a count. -/
def isDigitSeparator (c : Char) : Bool := [',', '.', '_', '\'', ' ', '\u00a0'].contains c

/-- Reads a count of at most 64 bits, with or without separators. -/
def readCount? (cs : List Char) : Option Nat :=
  let digits := (trim cs).filter fun c => !isDigitSeparator c
  if isRun digits then (readDigits? 10 digits).filter (· < 2 ^ 64) else none
where
  isRun (digits : List Char) : Bool := !digits.isEmpty && digits.all Char.isDigit

end Postmortem.Text
