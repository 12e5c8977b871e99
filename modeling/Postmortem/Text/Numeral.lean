import Postmortem.Number.Word

/-!
# Numerals

Reading and writing whole numbers in positional notation. A numeral is a non-empty run of digits
of its base, with an optional sign in front; a number that does not fit its width is not read.
-/

namespace Postmortem.Text

/-- ASCII digits in base sixteen. -/
def isHexDigit (c : Char) : Bool :=
  c.isDigit || ('a' ≤ c && c ≤ 'f') || ('A' ≤ c && c ≤ 'F')

/-- The value of a digit in a base up to sixteen. -/
def digitValue? (base : Nat) (c : Char) : Option Nat :=
  let value :=
    if c.isDigit then c.toNat - '0'.toNat
    else if 'a' ≤ c && c ≤ 'f' then c.toNat - 'a'.toNat + 10
    else if 'A' ≤ c && c ≤ 'F' then c.toNat - 'A'.toNat + 10
    else base
  if value < base then some value else none

/-- The number whose digit values are given, most significant first. -/
def ofDigits (base : Nat) (values : List Nat) : Nat :=
  values.foldl (fun n d => n * base + d) 0

/-- Reads a non-empty run of digits. -/
def readDigits? (base : Nat) (cs : List Char) : Option Nat :=
  if cs.isEmpty then none else (cs.mapM (digitValue? base)).map (ofDigits base)

/-- Reads a numeral below `2 ^ bits`, with an optional plus sign. -/
def readUnsigned? (base bits : Nat) (cs : List Char) : Option Nat :=
  let digits := match cs with
    | '+' :: rest => rest
    | _ => cs
  (readDigits? base digits).filter (· < 1 <<< bits)

/-- Reads a decimal numeral from `-2 ^ 63` up to `2 ^ 63 - 1`, with an optional sign. -/
def readInt64? (cs : List Char) : Option Int :=
  let value := match cs with
    | '-' :: rest => (readDigits? 10 rest).map fun n => -(n : Int)
    | '+' :: rest => (readDigits? 10 rest).map fun n => (n : Int)
    | _ => (readDigits? 10 cs).map fun n => (n : Int)
  value.filter fun n => -2 ^ 63 ≤ n ∧ n < 2 ^ 63

/-- Lower-case hexadecimal digits, without padding. -/
def hexDigits (n : Nat) : List Char := Nat.toDigits 16 n

/-- Lower-case hexadecimal digits, padded with zeros to `width`. -/
def hexPadded (width n : Nat) : List Char :=
  let digits := hexDigits n
  List.replicate (width - digits.length) '0' ++ digits

/-- A number with its sign, `+` for zero. -/
def signedText (n : Int) : String := if n < 0 then toString n else "+" ++ toString n

end Postmortem.Text

namespace Postmortem

open Text

/-- Lower-case hexadecimal text of a number, without prefix or padding. -/
def hexText (n : Nat) : String := .ofList (hexDigits n)

/-- The text followed by spaces up to `width` characters. -/
def padRight (width : Nat) (s : String) : String :=
  s ++ .ofList (List.replicate (width - s.length) ' ')

/-- The text behind spaces up to `width` characters. -/
def padLeft (width : Nat) (s : String) : String :=
  .ofList (List.replicate (width - s.length) ' ') ++ s

end Postmortem
