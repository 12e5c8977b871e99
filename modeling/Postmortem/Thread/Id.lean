import Postmortem.Address
import Postmortem.Text.Search

/-!
# Thread identifiers

One debugger prints a thread id as `0x2a3c`, another as `2a3c`, `10812` or `0x2a3c (10812)`. An id
keeps its text together with the numbers that the text can stand for, and `ThreadId.isSame`
compares ids across these spellings. It is deliberately lenient and no equivalence.
-/

namespace Postmortem

open Text

/-- A thread id: its text and, where the text can be read so, its value in either base. -/
structure ThreadId where
  raw : String
  hex : Option Nat := none
  decimal : Option Nat := none
deriving DecidableEq, Repr, Inhabited

namespace ThreadId

/-- The empty id. -/
def empty : ThreadId := ⟨"", none, none⟩

/-- Reads an id. A run of decimal digits is read in both bases; a second number in parentheses
is decimal. -/
def parse (s : String) : ThreadId :=
  let raw := trim s.toList
  let (head, tail?) :=
    match cutAt? ['('] raw with
    | some (before, behind) =>
      match cutAtLast? [')'] behind with
      | some (inside, _) => (trim before, some (trim inside))
      | none => (raw, none)
    | none => (raw, none)
  let readHex := readUnsigned? 16 64
  let (hex, decimal) :=
    if Address.hasPrefix head then (readHex (Address.body head), none)
    else if !head.isEmpty && head.all Char.isDigit then (readHex head, readUnsigned? 10 64 head)
    else if Address.isHexRun head then (readHex head, none)
    else (none, none)
  match tail? with
  | none => ⟨.ofList raw, hex, decimal⟩
  | some tail =>
    match readUnsigned? 10 64 tail with
    | some value => ⟨.ofList raw, hex, some value⟩
    | none => ⟨.ofList raw, hex <|> (afterStart? "0x" tail).bind readHex, decimal⟩

/-- The id that a number has when it is printed in base sixteen. -/
def ofHex (n : Nat) : ThreadId := ⟨"0x" ++ hexText n, some n, none⟩

/-- Whether the text can only be hexadecimal: it has a prefix or a digit above nine. -/
def isExplicitHex (id : ThreadId) : Bool :=
  let raw := trim id.raw.toList
  Address.hasPrefix raw || raw.any fun c => c.isAlpha && isHexDigit c

/-- The key of an id in set operations. -/
def key (id : ThreadId) : String :=
  match id.hex, id.decimal with
  | some hex, none => hexText hex
  | some hex, some decimal => if id.isExplicitHex then hexText hex else toString decimal
  | none, some decimal => toString decimal
  | none, none => .ofList (asciiLower id.raw.toList)

/-- Removes all prefixes `0x` in front. -/
def dropPrefixes : List Char → List Char
  | '0' :: 'x' :: cs => dropPrefixes cs
  | cs => cs

/-- The text of an id in small letters, without prefix and leading zeros. -/
def bareText (id : ThreadId) : List Char :=
  let stripped := dropPrefixes (trim (asciiLower id.raw.toList))
  match stripped.dropWhile (· == '0') with
  | [] => if stripped.isEmpty then [] else ['0']
  | significant => significant

/-- The least length, in bytes, at which one id may be recognised inside another. -/
def minContainedLength : Nat := 3

/-- Both values are known and equal. -/
def agree (a b : Option Nat) : Bool := a.isSome && a == b

/-- Whether two ids can belong to one thread: their bare texts are equal, their values are equal
in one base, the hexadecimal value of one that is explicitly hexadecimal is the decimal value of
the other, or one bare text contains the other. -/
def isSame (a b : ThreadId) : Bool :=
  let s := a.bareText
  let t := b.bareText
  let (short, long) := if byteLength s ≤ byteLength t then (s, t) else (t, s)
  (!s.isEmpty && s == t) ||
  (agree a.hex b.hex && (a.isExplicitHex || b.isExplicitHex)) ||
  agree a.decimal b.decimal ||
  (a.isExplicitHex && agree a.hex b.decimal) ||
  (b.isExplicitHex && agree a.decimal b.hex) ||
  (minContainedLength ≤ byteLength short && occursIn short long)

instance : ToString ThreadId := ⟨raw⟩

end ThreadId

end Postmortem
