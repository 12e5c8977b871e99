import Postmortem.Json.Basic
import Postmortem.Text.Numeral

/-!
# Reading JSON

A reader for whole texts. Values may be nested 127 levels deep. A number with a fraction or an
exponent, and an integer that does not fit 64 bits, is read in floating point: its digits are
rounded first and then scaled by a rounded power of ten. A number beyond the largest finite one is
refused.
-/

namespace Postmortem.Json.Parser

open Text

/-- The white space between tokens. -/
def isSpace (c : Char) : Bool := c == ' ' || c == '\n' || c == '\t' || c == '\r'

/-- The text behind white space. -/
def skip (cs : List Char) : List Char := cs.dropWhile isSpace

/-- The number of four hexadecimal digits. -/
def unit? (a b c d : Char) : Option Nat := readDigits? 16 [a, b, c, d]

/-- The character that follows a backslash, if it stands for one character. -/
def escaped? : Char → Option Char
  | '"' => some '"'
  | '\\' => some '\\'
  | '/' => some '/'
  | 'b' => some '\x08'
  | 'f' => some '\x0c'
  | 'n' => some '\n'
  | 'r' => some '\r'
  | 't' => some '\t'
  | _ => none

/-- Reads the rest of a string behind its opening quote. A pair of surrogates stands for one
character, and a lone one is refused. -/
def string? : List Char → Option (List Char × List Char)
  | [] => none
  | '"' :: rest => some ([], rest)
  | '\\' :: 'u' :: a :: b :: c :: d :: rest => do
    let high ← unit? a b c d
    if 0xDC00 ≤ high ∧ high ≤ 0xDFFF then none
    else if 0xD800 ≤ high ∧ high ≤ 0xDBFF then
      match rest with
      | '\\' :: 'u' :: e :: f :: g :: h :: rest' =>
        let low ← unit? e f g h
        guard (0xDC00 ≤ low ∧ low ≤ 0xDFFF)
        let (cs, left) ← string? rest'
        return (Char.ofNat (0x10000 + (high - 0xD800) * 0x400 + (low - 0xDC00)) :: cs, left)
      | _ => none
    else
      let (cs, left) ← string? rest
      return (Char.ofNat high :: cs, left)
  | '\\' :: c :: rest => do
    let e ← escaped? c
    let (cs, left) ← string? rest
    return (e :: cs, left)
  | c :: rest => do
    guard (' ' ≤ c ∧ c ≠ '\\')
    let (cs, left) ← string? rest
    return (c :: cs, left)

/-! ### Numbers -/

/-- Ten to a power, rounded. -/
def powerOfTen (n : Nat) : Binary64 := .ofInt (Nat.pow 10 n)

/-- The greatest power of ten that is finite. -/
def maxPower : Nat := 308

/-- A rounded number scaled down by steps of the greatest power of ten. -/
def scaleDown : Nat → Binary64 → Nat → Binary64
  | 0, x, _ => x
  | fuel + 1, x, power =>
    if power ≤ maxPower then x.div (powerOfTen power)
    else if x.magnitude = 0 then x
    else scaleDown fuel (x.div (powerOfTen maxPower)) (power - maxPower)

/-- The number `significand * 10 ^ power`, unless it is too large. The significand is rounded
before it is scaled. -/
def scaled? (significand : Nat) (power : Int) : Option Binary64 :=
  let x := Binary64.ofInt significand
  if 0 ≤ power then
    if power.toNat ≤ maxPower then
      let y := x.mul (powerOfTen power.toNat)
      if y.isFinite then some y else none
    else if x.magnitude = 0 then some x
    else none
  else some (scaleDown 8 x (-power).toNat)

/-- The digits of a significand that fit 64 bits, and the digits that do not. -/
def fitting (n : Nat) : List Char → Nat × List Char
  | [] => (n, [])
  | c :: cs =>
    let n' := n * 10 + (c.toNat - '0'.toNat)
    if n' < 2 ^ 64 then fitting n' cs else (n, c :: cs)

/-- The limit of exponents; those beyond stand for zero or for a number that is too large. -/
def exponentLimit : Nat := 2 ^ 31

/-- The number with given digits in front of the point, digits behind it and exponent. Digits that
do not fit the significand are dropped. -/
def assemble? (whole fraction : List Char) (negative : Bool) (exponent : List Char) :
    Option Binary64 :=
  let (n, dropped) := fitting 0 whole
  let (significand, left) := fitting n fraction
  let used := fraction.length - left.length
  let power := ofDigits 10 (exponent.map fun c => c.toNat - '0'.toNat)
  if exponentLimit ≤ power then
    if significand = 0 ∨ negative then some (.make false 0) else none
  else
    let shift : Int := (dropped.length : Int) - used
    scaled? significand (if negative then shift - power else shift + power)

/-- Reads the exponent of a number: its sign and digits. A number may have none. -/
def exponent? : List Char → Option (Bool × List Char × List Char)
  | c :: cs =>
    if c == 'e' || c == 'E' then
      let (negative, digits) := match cs with
        | '-' :: ds => (true, ds)
        | '+' :: ds => (false, ds)
        | ds => (false, ds)
      let (ds, rest) := digits.span Char.isDigit
      if ds.isEmpty then none else some (negative, ds, rest)
    else some (false, [], c :: cs)
  | [] => some (false, [], [])

/-- A number as it is written, without its sign. -/
structure Written where
  whole : List Char
  fraction : Option (List Char)
  exponentIsNegative : Bool
  exponent : List Char

/-- Reads the form of a number behind its sign. -/
def written? (cs : List Char) : Option (Written × List Char) := do
  let (whole, rest) := cs.span Char.isDigit
  guard (!whole.isEmpty && (whole.head? != some '0' || whole.length == 1))
  let (fraction, rest) ← match rest with
    | '.' :: behind =>
      let (ds, left) := behind.span Char.isDigit
      if ds.isEmpty then none else some (some ds, left)
    | _ => some (none, rest)
  let (negative, power, left) ← exponent? rest
  return (⟨whole, fraction, negative, power⟩, left)

/-- What a written number stands for, unless it is too large. -/
def Written.value? (w : Written) (negated : Bool) : Option Json :=
  let n := ofDigits 10 (w.whole.map fun c => c.toNat - '0'.toNat)
  if w.fraction.isNone && w.exponent.isEmpty && !negated && n < 2 ^ 64 then some (.int n)
  else if w.fraction.isNone && w.exponent.isEmpty && negated && 0 < n && n ≤ 2 ^ 63 then
    some (.int (-n))
  else
    (assemble? w.whole (w.fraction.getD []) w.exponentIsNegative w.exponent).map fun x =>
      .real (.make negated x.magnitude)

/-- Reads a number without its sign. -/
def magnitude? (negated : Bool) (cs : List Char) : Option (Json × List Char) := do
  let (w, left) ← written? cs
  return (← w.value? negated, left)

/-- Reads a number. -/
def number? : List Char → Option (Json × List Char)
  | '-' :: cs => magnitude? true cs
  | cs => magnitude? false cs

/-! ### Values -/

mutual

/-- Reads a value; `depth` levels may be opened. -/
def value? (fuel depth : Nat) (cs : List Char) : Option (Json × List Char) :=
  match fuel, skip cs with
  | 0, _ => none
  | _, [] => none
  | fuel + 1, c :: rest =>
    if c == '"' then (string? rest).map fun (s, left) => (.str (.ofList s), left)
    else if c == '[' then
      match depth, skip rest with
      | 0, _ => none
      | _ + 1, ']' :: left => some (.arr [], left)
      | depth + 1, _ => (items? fuel depth rest).map fun (xs, left) => (.arr xs, left)
    else if c == '\x7b' then
      match depth, skip rest with
      | 0, _ => none
      | _ + 1, '\x7d' :: left => some (.obj [], left)
      | depth + 1, _ => (members? fuel depth rest).map fun (ms, left) => (.obj ms, left)
    else
      match "null".toList.isPrefixOf? (c :: rest), "true".toList.isPrefixOf? (c :: rest),
          "false".toList.isPrefixOf? (c :: rest) with
      | some left, _, _ => some (.null, left)
      | _, some left, _ => some (.bool true, left)
      | _, _, some left => some (.bool false, left)
      | none, none, none => number? (c :: rest)

/-- Reads the items of an array up to its end. -/
def items? (fuel depth : Nat) (cs : List Char) : Option (List Json × List Char) :=
  match fuel with
  | 0 => none
  | fuel + 1 => do
    let (item, rest) ← value? fuel depth cs
    match skip rest with
    | ',' :: rest =>
      let (items, left) ← items? fuel depth rest
      return (item :: items, left)
    | ']' :: left => return ([item], left)
    | _ => none

/-- Reads the members of an object up to its end. -/
def members? (fuel depth : Nat) (cs : List Char) :
    Option (List (String × Json) × List Char) :=
  match fuel, skip cs with
  | fuel + 1, '"' :: rest => do
    let (name, rest) ← string? rest
    match skip rest with
    | ':' :: rest =>
      let (value, rest) ← value? fuel depth rest
      match skip rest with
      | ',' :: rest =>
        let (members, left) ← members? fuel depth rest
        return ((.ofList name, value) :: members, left)
      | '\x7d' :: left => return ([(.ofList name, value)], left)
      | _ => none
    | _ => none
  | _, _ => none

end

/-- The greatest number of levels. -/
def maxDepth : Nat := 127

end Parser

open Postmortem.Json.Parser in
/-- Reads a text that is one JSON value. -/
def parse? (s : String) : Option Json :=
  let cs := s.toList
  match value? (2 * cs.length + 2) maxDepth cs with
  | some (json, rest) => if (skip rest).isEmpty then some json else none
  | none => none

end Postmortem.Json
