import Postmortem.Json.Parser

/-!
# Reading one record

A reader for texts that are one record with known fields. Of the values of other members only the
form is looked at (`valueEnd?`): numbers may be too large there, escapes may be lone surrogates,
and levels are not counted.
-/

namespace Postmortem.Json

namespace Parser

/-- The text behind a string whose opening quote has been read. -/
def stringEnd? : List Char → Option (List Char)
  | [] => none
  | '"' :: rest => some rest
  | '\\' :: 'u' :: a :: b :: c :: d :: rest => do
    guard (unit? a b c d).isSome
    stringEnd? rest
  | '\\' :: c :: rest => do
    guard (escaped? c).isSome
    stringEnd? rest
  | c :: rest => do
    guard (' ' ≤ c ∧ c ≠ '\\')
    stringEnd? rest

/-- The text behind a number. -/
def numberEnd? : List Char → Option (List Char)
  | '-' :: cs => (written? cs).map Prod.snd
  | cs => (written? cs).map Prod.snd

/-- The text behind a value that is neither an array nor an object. -/
def leafEnd? (cs : List Char) : Option (List Char) :=
  match cs with
  | '"' :: rest => stringEnd? rest
  | _ =>
    let literals := ["null", "true", "false"]
    match literals.findSome? fun literal => literal.toList.isPrefixOf? cs with
    | some rest => some rest
    | none => numberEnd? cs

/-- What values are nested in. -/
inductive Enclosure where
  | array
  | object
deriving DecidableEq, Repr

namespace Enclosure

/-- The enclosure that a character opens. -/
def ofOpening? : Char → Option Enclosure
  | '[' => some array
  | '\x7b' => some object
  | _ => none

/-- The character that closes an enclosure. -/
def closing : Enclosure → Char
  | array => ']'
  | object => '\x7d'

/-- The text of an item from its value on: members of objects have a name in front of it. -/
def valueStart? : Enclosure → List Char → Option (List Char)
  | array, cs => some cs
  | object, cs =>
    match skip cs with
    | '"' :: rest => do
      match skip (← stringEnd? rest) with
      | ':' :: left => some left
      | _ => none
    | _ => none

end Enclosure

/-- The text behind a value. The enclosures that have been opened come innermost first, and
`due` tells whether a value is due or has just ended. -/
def valueEnd? (fuel : Nat) (opened : List Enclosure) (due : Bool) (cs : List Char) :
    Option (List Char) :=
  match fuel with
  | 0 => none
  | fuel + 1 =>
    if due then
      match skip cs with
      | [] => none
      | c :: rest =>
        match Enclosure.ofOpening? c with
        | none =>
          match leafEnd? (c :: rest) with
          | none => none
          | some left => valueEnd? fuel opened false left
        | some enclosure =>
          if (skip rest).head? = some enclosure.closing then
            valueEnd? fuel opened false (skip rest).tail
          else
            match enclosure.valueStart? rest with
            | none => none
            | some left => valueEnd? fuel (enclosure :: opened) true left
    else
      match opened with
      | [] => some cs
      | enclosure :: outer =>
        match skip cs with
        | [] => none
        | c :: rest =>
          if c = enclosure.closing then valueEnd? fuel outer false rest
          else if c = ',' then
            match enclosure.valueStart? rest with
            | none => none
            | some left => valueEnd? fuel opened true left
          else none

/-- Reads the members of a record up to its end, leaving out those that are no fields. -/
def fieldMembers? (names : List String) (fuel depth : Nat) (cs : List Char) :
    Option (List (String × Json) × List Char) :=
  match fuel, skip cs with
  | fuel + 1, '"' :: rest => do
    let (chars, rest) ← string? rest
    let name := String.ofList chars
    match skip rest with
    | ':' :: rest =>
      let (field, rest) ←
        if names.contains name then
          (value? fuel depth rest).map fun (value, left) => ([(name, value)], left)
        else (valueEnd? fuel [] true rest).map fun left => ([], left)
      match skip rest with
      | ',' :: rest =>
        let (fields, left) ← fieldMembers? names fuel depth rest
        return (field ++ fields, left)
      | '\x7d' :: left => return (field, left)
      | _ => none
    | _ => none
  | _, _ => none

end Parser

open Postmortem.Json.Parser in
/-- Reads a text that is one record with fields of these names. A record that is written as an
array has no other members. -/
def parseRecord? (names : List String) (s : String) : Option Json :=
  let cs := s.toList
  match skip cs with
  | '\x7b' :: rest =>
    match skip rest with
    | '\x7d' :: left => if (skip left).isEmpty then some (.obj []) else none
    | _ =>
      match fieldMembers? names (2 * cs.length + 2) (maxDepth - 1) rest with
      | some (members, left) => if (skip left).isEmpty then some (.obj members) else none
      | none => none
  | _ => parse? s

end Postmortem.Json
