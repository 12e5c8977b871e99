import Postmortem.Text.Blank
import Postmortem.Text.Numeral

/-!
# Addresses

Debuggers print one address in many ways: with or without a prefix, zero-padded, split by
backticks, in brackets, behind a type name or in front of an offset. `Address.read?` finds the
value in all of them; `Address.text` is the one way in which this library prints it.
-/

namespace Postmortem

open Text

/-- A 64-bit address: of code, of a stack slot or of an object. -/
structure Address where
  value : UInt64
deriving DecidableEq, Repr, Inhabited

namespace Address

/-- The separator that splits the two halves of a 64-bit address. -/
def backtick : Char := Char.ofNat 0x60

/-- The address with the given number, if the number fits. -/
def ofNat? (n : Nat) : Option Address := if n < 2 ^ 64 then some ⟨UInt64.ofNat n⟩ else none

/-- The number of an address. -/
def toNat (a : Address) : Nat := a.value.toNat

/-- Whether an explicit hexadecimal prefix stands in front. -/
def hasPrefix : List Char → Bool
  | '0' :: 'x' :: _ => true
  | '0' :: 'X' :: _ => true
  | _ => false

/-- The text behind a hexadecimal prefix, or all of it. -/
def body : List Char → List Char
  | '0' :: 'x' :: cs => cs
  | '0' :: 'X' :: cs => cs
  | cs => cs

/-- The text without backticks. -/
def joinHalves (cs : List Char) : List Char := cs.filter (· != backtick)

/-- The part in front of the first plus sign: an address without its offset. -/
def beforeOffset (cs : List Char) : List Char := cs.takeWhile (· != '+')

/-- A non-empty run of hexadecimal digits. -/
def isHexRun (cs : List Char) : Bool := !cs.isEmpty && cs.all isHexDigit

/-- Whether a token can be read as an address, perhaps with an offset. -/
def looksLikeAddress (cs : List Char) : Bool := isHexRun (beforeOffset (body (joinHalves cs)))

/-- Square and curly brackets. -/
def isBracket (c : Char) : Bool := ['[', ']', '\x7b', '\x7d'].contains c

/-- The punctuation that may surround a token. -/
def isDecoration (c : Char) : Bool := isBracket c || ['(', ')', ',', ':'].contains c

/-- The token of a text that is its address, without brackets and offset. A prefixed token wins
over words that merely consist of hexadecimal digits. -/
def token? (cs : List Char) : Option (List Char) :=
  let inner := trimWhere (fun c => isBracket c || c == ',') (trim cs)
  let tokens := (words inner).map (trimWhere isDecoration)
  let found := (tokens.find? fun t => hasPrefix t && looksLikeAddress t) <|>
    tokens.find? looksLikeAddress
  found.map beforeOffset

/-- Reads the address in a text. Only the digits behind the leading zeros must fit 64 bits. -/
def read? (cs : List Char) : Option Address := do
  let digits := body (joinHalves (← token? cs))
  guard (isHexRun digits)
  match digits.dropWhile (· == '0') with
  | [] => some ⟨0⟩
  | significant =>
    guard (significant.length ≤ 16)
    (readDigits? 16 significant).bind ofNat?

/-- Reads the address in a text. -/
def parse? (s : String) : Option Address := read? s.toList

/-- An address is printed with sixteen digits behind a prefix. -/
def text (a : Address) : String := .ofList ('0' :: 'x' :: hexPadded 16 a.toNat)

instance : ToString Address := ⟨text⟩

/-- The digits of an address without prefix and padding: equal addresses have equal keys,
however they were printed. -/
def key (a : Address) : String := hexText a.toNat

/-- How far two addresses are apart. -/
def distance (a b : Address) : Nat := (a.toNat - b.toNat) + (b.toNat - a.toNat)

end Address

end Postmortem
