import Postmortem.Address
import Postmortem.Text.Search
import Postmortem.Text.Scan

/-!
# Generic type names

A generic type is written with its arity behind a backtick and its arguments in square brackets,
each perhaps with its assembly, or with its arguments in angle brackets.
-/

namespace Postmortem

open Text

/-- The parts of a generic type name. An open definition has no arguments. -/
structure GenericName where
  base : String
  arity : Nat
  arguments : List String
deriving DecidableEq, Repr, Inhabited

/-- The parts of a text between the commas that stand outside of brackets: trimmed, and without
empty parts. -/
def splitTopLevel (cs : List Char) : List (List Char) :=
  (go 0 [] cs).map trim |>.filter fun part => !part.isEmpty
where
  /-- `depth` counts open brackets, and `part` holds the part being read, last character first. -/
  go (depth : Nat) (part : List Char) : List Char → List (List Char)
    | [] => [part.reverse]
    | c :: cs =>
      if c == ',' && depth == 0 then part.reverse :: go 0 [] cs
      else if c == '[' || c == '<' then go (depth + 1) (c :: part) cs
      else if c == ']' || c == '>' then go (depth - 1) (c :: part) cs
      else go depth (c :: part) cs

/-- An argument without its brackets and its assembly. -/
def bareArgument (cs : List Char) : List Char :=
  let inner := dropEndWhile (· == ']') (cs.dropWhile (· == '['))
  (splitTopLevel inner).headD inner

/-- The text between two brackets that enclose all of it. -/
def enclosed? (opening closing : Char) (cs : List Char) : Option (List Char) :=
  match cs with
  | c :: inner => if c == opening && inner.getLast? == some closing then some inner.dropLast else none
  | [] => none

namespace GenericName

/-- Reads a generic type name. -/
def parse? (s : String) : Option GenericName :=
  let cs := trim s.toList
  match cutAt? [Address.backtick] cs with
  | some (base, behind) => do
    let (digits, suffix) := behind.span Char.isDigit
    let arity ← readUnsigned? 10 64 digits
    let arguments := match enclosed? '[' ']' (trim suffix) with
      | some inner => (splitTopLevel inner).map fun part => .ofList (bareArgument part)
      | none => []
    return { base := .ofList base, arity, arguments }
  | none => do
    let (base, behind) ← cutAt? ['<'] cs
    let inner ← enclosed? '<' '>' ('<' :: behind)
    let arguments := (splitTopLevel inner).map String.ofList
    return { base := .ofList base, arity := arguments.length, arguments }

/-- Whether two names are of one generic type. -/
def sameDefinition (a b : GenericName) : Bool := a.base == b.base && a.arity == b.arity

end GenericName

end Postmortem
