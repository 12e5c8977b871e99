import Postmortem.Text.Search
import Postmortem.Text.Scan

/-!
# Missing members

What an exception message says could not be found. Messages have one of four forms; the first form
that occurs in a message counts.
-/

namespace Postmortem

open Text Scan

/-- A type or member that could not be found. -/
structure MemberRequest where
  typeName : String
  memberName : Option String := none
  signature : Option String := none
  assembly : Option String := none
deriving DecidableEq, Repr, Inhabited

namespace MemberRequest

/-- Whether a character can be part of a quoted dotted name. -/
def isNameChar (c : Char) : Bool := c != '\'' && !isBlank c

/-- Reads a member and its parameters in front of a closing quote. -/
def memberAndParameters : Scan (List Char × List Char) := do
  let dot ← optional (literal ".")
  let name ← span1 fun c => c != '.' && c != '\'' && c != '('
  literal "("
  let parameters ← span (· != ')')
  literal ")'"
  return (if dot.isSome then '.' :: name else name, parameters)

/-- Reads a type, a dot, a member and its parameters. Of the dots that a member can follow, the
first counts. -/
def methodOfType (typeName : List Char) :
    List Char → Option (List Char × List Char × List Char)
  | [] => none
  | c :: cs =>
    let here := if c == '.' && !typeName.isEmpty then front? memberAndParameters cs else none
    match here with
    | some (member, parameters) => some (typeName.reverse, member, parameters)
    | none => if isNameChar c && c != '(' then methodOfType (c :: typeName) cs else none

/-- Reads a message about a method with its return type and parameters. -/
def methodNotFound : Scan MemberRequest := do
  literal "Method not found: '"
  let returned ← column
  literal " "
  let (typeName, member, parameters) ← methodOfType [] (← rest)
  return { typeName := .ofList typeName
           memberName := some (.ofList member)
           signature := some (.ofList (returned ++ ' ' :: member ++ '(' :: parameters ++ [')'])) }

/-- Reads a quoted name of a type, a dot and a member. -/
def typeAndMember : Scan MemberRequest := do
  let name ← span1 isNameChar
  literal "'"
  let (typeName, member) ← cutAtLast? ['.'] name
  guard (!typeName.isEmpty && !member.isEmpty)
  return { typeName := .ofList typeName, memberName := some (.ofList member) }

/-- Reads a message about a field. -/
def fieldNotFound : Scan MemberRequest := do
  literal "Field not found: '"
  typeAndMember

/-- Reads a message about a type. -/
def typeNotLoaded : Scan MemberRequest := do
  literal "Could not load type '"
  let typeName ← span1 (· != '\'')
  literal "' from assembly '"
  let assembly ← span1 fun c => c != '\'' && c != ','
  return { typeName := .ofList typeName, assembly := some (.ofList assembly) }

/-- Reads a message about a member of any kind. -/
def memberNotFound : Scan MemberRequest := do
  literal "Member" <|> literal "Method" <|> literal "Field"
  literal " '"
  let request ← typeAndMember
  literal " not found"
  return request

/-- Reads what a message says could not be found. -/
def parse? (message : String) : Option MemberRequest :=
  [methodNotFound, fieldNotFound, typeNotLoaded, memberNotFound].findSome? fun form =>
    first? form message.toList

end MemberRequest

end Postmortem
