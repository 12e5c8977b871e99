import Postmortem.Text.Blank
import Postmortem.Text.DecimalDigit
import Postmortem.Text.Numeral

/-!
# Reading the front of a line

A `Scan` takes what it wants from the front of a text and leaves the rest, or fails. Debugger
listings are tables, so most scans read **columns**: maximal runs without blanks.
-/

namespace Postmortem.Text

/-- A reader of the front of a text. -/
abbrev Scan := StateT (List Char) Option

namespace Scan

variable {α : Type}

/-- What the scan reads from the front of the text, whatever it leaves. -/
def front? (scan : Scan α) (cs : List Char) : Option α := (scan.run cs).map Prod.fst

/-- Skips blanks. -/
def blanks : Scan Unit := fun cs => some ((), trimStart cs)

/-- Takes the longest run of members of a class. -/
def span (p : Char → Bool) : Scan (List Char) := fun cs => some (cs.takeWhile p, cs.dropWhile p)

/-- Takes the longest run of members of a class; there must be one. -/
def span1 (p : Char → Bool) : Scan (List Char) := fun cs =>
  match cs.takeWhile p with
  | [] => none
  | taken => some (taken, cs.dropWhile p)

/-- Skips blanks; there must be one. -/
def blanks1 : Scan Unit := do let _ ← span1 isBlank

/-- Skips a fixed text. -/
def literal (s : String) : Scan Unit := fun cs =>
  (s.toList.isPrefixOf? cs).map fun rest => ((), rest)

/-- Takes one member of a class. -/
def one (p : Char → Bool) : Scan Char
  | c :: cs => if p c then some (c, cs) else none
  | [] => none

/-- Takes everything that is left. -/
def rest : Scan (List Char) := fun cs => some (cs, [])

/-- Takes the text up to the next blank; there must be some. -/
def column : Scan (List Char) := span1 fun c => !isBlank c

/-- Takes a column that satisfies `p` and the blanks behind it; there must be one blank. -/
def columnThen (p : List Char → Bool) : Scan (List Char) := do
  let cs ← column
  guard (p cs)
  blanks1
  return cs

/-- Succeeds where no text is left. -/
def atEnd : Scan Unit
  | [] => some ((), [])
  | _ :: _ => none

/-- Takes the rest of the line without trailing blanks; something must be left. -/
def lastColumn : Scan (List Char) := fun cs =>
  match trimEnd cs with
  | [] => none
  | taken => some (taken, [])

/-- Hexadecimal digits behind a prefix `0x`, prefix included. -/
def hexNumeral : Scan (List Char) := do
  literal "0x"
  let digits ← span1 isHexDigit
  return '0' :: 'x' :: digits

/-- What the scan reads at the first place where it reads anything. -/
def first? (scan : Scan α) : List Char → Option α
  | [] => front? scan []
  | c :: cs =>
    match front? scan (c :: cs) with
    | some a => some a
    | none => first? scan cs

/-- Sweeps over a text: everything that the scan reads, from left to right and without overlap,
and the text that is left when these parts are taken out. The scan is told which character stands
before the place where it reads. -/
def sweep (scan : Option Char → Scan α) (previous : Option Char) (cs : List Char) :
    List α × List Char :=
  match cs with
  | [] => ([], [])
  | c :: tail =>
    match (scan previous).run (c :: tail) with
    | some (a, left) =>
      if left.length ≤ tail.length then
        let last := ((c :: tail).take (tail.length + 1 - left.length)).getLast?
        let (found, kept) := sweep scan last left
        (a :: found, kept)
      else
        let (found, kept) := sweep scan (some c) tail
        (found, c :: kept)
    | none =>
      let (found, kept) := sweep scan (some c) tail
      (found, c :: kept)
termination_by cs.length

end Scan

/-- Whether the text is a non-empty run of members of a class. -/
def isRunOf (p : Char → Bool) (cs : List Char) : Bool := !cs.isEmpty && cs.all p

/-- Whether the text is a run of decimal digits. -/
def isDigits (cs : List Char) : Bool := isRunOf isDecimalDigit cs

/-- The text without a prefix `0x`. -/
def dropHexPrefix (cs : List Char) : List Char := ("0x".toList.isPrefixOf? cs).getD cs

/-- Whether the text is `low` to `high` hexadecimal digits, with or without a prefix `0x`. -/
def isHexColumn (low high : Nat) (cs : List Char) : Bool :=
  let digits := dropHexPrefix cs
  digits.all isHexDigit && low ≤ digits.length && digits.length ≤ high

end Postmortem.Text
