import Postmortem.Json.Basic
import Postmortem.Number.Decimal
import Postmortem.Text.Scan

/-!
# Scalars of settings files

Texts in quotes, numbers, truth values and date-times. A date-time is read and checked, but as no
setting is one, its value is not kept: it is an object without members.
-/

namespace Postmortem.Toml

open Text Scan

/-- Whether a character can stand in a text or a comment: a tab or no control character. -/
def isTextChar (c : Char) : Bool := c == '\t' || (' ' ≤ c && c != '\x7f')

/-- The white space inside a line. -/
def isSpace (c : Char) : Bool := c == ' ' || c == '\t'

/-- Skips white space inside a line. -/
def spaces : Scan Unit := do let _ ← span isSpace

/-- Skips the end of a line. -/
def newline : Scan Unit := literal "\n" <|> literal "\r\n"

/-! ### Texts -/

/-- How a text is quoted. -/
structure Quoting where
  quote : Char
  /-- Whether a backslash starts an escape. -/
  escapes : Bool
  /-- Whether the quote is written three times and the text may span lines. -/
  multiLine : Bool

namespace Quoting

/-- Reads the number of a character in some hexadecimal digits. -/
def codePoint (digits : Nat) : Scan Char := fun cs => do
  let n ← readDigits? 16 (cs.take digits)
  guard (digits ≤ cs.length && n.isValidChar)
  return (Char.ofNat n, cs.drop digits)

/-- Reads what follows a backslash. -/
def escape : Scan Char := do
  match ← one fun _ => true with
  | 'b' => return '\x08'
  | 't' => return '\t'
  | 'n' => return '\n'
  | 'f' => return '\x0c'
  | 'r' => return '\r'
  | '"' => return '"'
  | '\\' => return '\\'
  | 'u' => codePoint 4
  | 'U' => codePoint 8
  | _ => failure

/-- Reads the rest of a line without text, the end of the line and all white space behind it. -/
def continuation : Scan Unit := do
  spaces
  newline
  let _ ← span fun c => isSpace c || c == '\n' || c == '\r'

/-- Reads the quotes that end a text. Up to two quotes in front of three are part of the text. -/
def closing (q : Quoting) : Scan (List Char) := fun cs =>
  let run := (cs.takeWhile (· == q.quote)).length
  if !q.multiLine then if 0 < run then some ([], cs.drop 1) else none
  else if 3 ≤ run then
    let kept := min (run - 3) 2
    some (cs.take kept, cs.drop (kept + 3))
  else none

/-- Reads one character of a text, or several that stand for none. -/
def piece (q : Quoting) : Scan (List Char) := do
  match ← one fun _ => true with
  | '\\' =>
    if !q.escapes then return ['\\']
    else
      let joined : Scan (List Char) := do
        guard q.multiLine
        continuation
        return []
      joined <|> do return [← escape]
  | '\r' =>
    guard q.multiLine
    literal "\n"
    return ['\n']
  | '\n' =>
    guard q.multiLine
    return ['\n']
  | c =>
    guard (isTextChar c)
    return [c]

/-- Reads a text behind its opening quotes in at most some pieces. -/
def body (q : Quoting) : (pieces : Nat) → Scan (List Char)
  | 0 => closing q
  | pieces + 1 =>
    closing q <|> do
      let piece ← piece q
      return piece ++ (← body q pieces)

/-- Reads a text with its quotes. A line break directly behind three quotes is left out. -/
def text (q : Quoting) : Scan String := do
  let quotes := List.replicate (if q.multiLine then 3 else 1) q.quote
  literal (.ofList quotes)
  if q.multiLine then
    let _ ← optional newline
  return .ofList (← body q (← get).length)

end Quoting

/-- Reads a text on one line. -/
def lineText : Scan String := Quoting.text ⟨'"', true, false⟩ <|> Quoting.text ⟨'\'', false, false⟩

/-- Reads a text. -/
def text : Scan String :=
  Quoting.text ⟨'"', true, true⟩ <|> Quoting.text ⟨'\'', false, true⟩ <|> lineText

/-! ### Numbers -/

/-- Takes the rest of a run of digits, in which single underscores may stand between digits. The
underscores are dropped. -/
def moreDigits (p : Char → Bool) : Scan (List Char)
  | [] => some ([], [])
  | '_' :: c :: cs =>
    if p c then (moreDigits p cs).map fun (ds, left) => (c :: ds, left) else none
  | c :: cs =>
    if p c then (moreDigits p cs).map fun (ds, left) => (c :: ds, left)
    else if c == '_' then none
    else some ([], c :: cs)

/-- Takes a run of digits. -/
def digits (p : Char → Bool) : Scan (List Char) := do
  let first ← one p
  return first :: (← moreDigits p)

/-- Takes a decimal number without leading zeros. -/
def wholeDigits : Scan (List Char) := do
  let first ← one Char.isDigit
  if first == '0' then return [first] else return first :: (← moreDigits Char.isDigit)

/-- An integer that fits 64 bits with its sign. -/
def integer (n : Int) : Scan Json := do
  guard (-2 ^ 63 ≤ n ∧ n < 2 ^ 63)
  return .int n

/-- Reads an integer in another base behind its prefix. -/
def prefixedInteger : Scan Json := do
  literal "0"
  let base ← match ← one fun _ => true with
    | 'x' => pure 16
    | 'o' => pure 8
    | 'b' => pure 2
    | _ => failure
  let ds ← digits fun c => (digitValue? base c).isSome
  match readDigits? base ds with
  | some n => integer n
  | none => failure

/-- Reads a sign: whether it is a minus. -/
def sign : Scan Bool := do
  match ← optional (literal "-") with
  | some _ => return true
  | none =>
    let _ ← optional (literal "+")
    return false

/-- Reads the exponent of a number. -/
def exponent : Scan Int := do
  let _ ← one fun c => c == 'e' || c == 'E'
  let negative ← sign
  let ds ← digits Char.isDigit
  let n : Int := (readDigits? 10 ds).getD 0
  return if negative then -n else n

/-- Reads an infinity or what is no number. -/
def specialNumber : Scan Json := do
  let negative ← sign
  let infinite : Scan Binary64 := do
    literal "inf"
    return .infinity negative
  let noNumber : Scan Binary64 := do
    literal "nan"
    return .nan
  return .real (← infinite <|> noNumber)

/-- Reads a decimal number. It is an integer if it has neither a fraction nor an exponent. A number
above the largest finite one is refused. -/
def decimalNumber : Scan Json := do
  let negative ← sign
  let whole ← wholeDigits
  let fraction ← optional do
    literal "."
    digits Char.isDigit
  let power ← optional exponent
  let places := fraction.getD []
  let n := (readDigits? 10 (whole ++ places)).getD 0
  if fraction.isNone && power.isNone then integer (if negative then -n else n)
  else
    let x := Binary64.ofDecimal negative ⟨n, power.getD 0 - places.length⟩
    guard (x != .infinity false)
    return .real x

/-- Reads a number. -/
def number : Scan Json := specialNumber <|> prefixedInteger <|> decimalNumber

/-! ### Date-times -/

/-- Reads a number of some digits within limits. -/
def bounded (width low high : Nat) : Scan Nat := fun cs => do
  let ds := cs.take width
  guard (ds.length = width && ds.all Char.isDigit)
  let n ← readDigits? 10 ds
  guard (low ≤ n && n ≤ high)
  return (n, cs.drop width)

/-- The number of days of a month. -/
def daysOf (year month : Nat) : Nat :=
  if month = 2 then
    if (year % 4 = 0 ∧ year % 100 ≠ 0) ∨ year % 400 = 0 then 29 else 28
  else if [4, 6, 9, 11].contains month then 30
  else 31

/-- Skips a date. -/
def date : Scan Unit := do
  let year ← bounded 4 0 9999
  literal "-"
  let month ← bounded 2 1 12
  literal "-"
  let _ ← bounded 2 1 (daysOf year month)

/-- Skips a time of the day. -/
def time : Scan Unit := do
  let _ ← bounded 2 0 23
  literal ":"
  let _ ← bounded 2 0 59
  literal ":"
  let _ ← bounded 2 0 60
  let _ ← optional do
    literal "."
    span1 Char.isDigit

/-- Skips a distance from the standard time. -/
def offset : Scan Unit := do
  let universal : Scan Unit := literal "Z" <|> literal "z"
  universal <|> do
    literal "+" <|> literal "-"
    let _ ← bounded 2 0 23
    literal ":"
    let _ ← bounded 2 0 59

/-- Reads a date-time. -/
def dateTime : Scan Json := do
  let dated : Scan Unit := do
    date
    let _ ← optional do
      let _ ← one fun c => c == 'T' || c == 't' || c == ' '
      time
      let _ ← optional offset
  dated <|> time
  return .obj []

/-! ### Scalars -/

/-- Reads a truth value. -/
def truth : Scan Json :=
  (do literal "true"; return .bool true) <|> (do literal "false"; return .bool false)

/-- Reads a scalar. -/
def scalar : Scan Json :=
  (do return .str (← text)) <|> truth <|> dateTime <|> number

end Postmortem.Toml
