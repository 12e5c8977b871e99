import Postmortem.Address
import Postmortem.Text.Numeral

/-!
# Object trees

What an inspection of an object shows: its fields and elements down to some depth.
-/

namespace Postmortem

/-- An inspected value. -/
inductive ObjectTree where
  | null
  | primitive (typeName : Option String) (value : String)
  | string (value : String) (truncated : Bool)
  | object (typeName : String) (address : Option Address) (fields : List (String × ObjectTree))
  | array (elementType : Option String) (length : Nat) (elements : List ObjectTree)
  /-- Stands for a value that could not be inspected. -/
  | unavailable (reason : String)
deriving Repr, Inhabited, BEq

namespace ObjectTree

/-- The first field of an object with a name. -/
def field? (tree : ObjectTree) (name : String) : Option ObjectTree :=
  match tree with
  | object _ _ fields => (fields.find? fun f => f.1 == name).map Prod.snd
  | _ => none

/-- A value as text; nothing and the unknown have none, and neither has a blank value. -/
def text? (tree : ObjectTree) : Option String :=
  let shown : Option String :=
    match tree with
    | null | unavailable _ => none
    | primitive _ value | string value _ => some value
    | object typeName (some address) _ => some s!"{typeName} @ {address}"
    | object typeName none _ => some typeName
    | array elementType length _ =>
      let ofType := elementType.getD "object"
      some s!"{ofType}[{length}]"
  (shown.map trimmed).filter (!·.isEmpty)

/-- The text of a field. -/
def fieldText? (tree : ObjectTree) (name : String) : Option String := (tree.field? name).bind text?

/-- Whether the value could be inspected. -/
def isAvailable : ObjectTree → Bool
  | unavailable _ => false
  | _ => true

end ObjectTree

/-- How much of an object an inspection shows. -/
structure InspectLimits where
  maxDepth : Nat := 3
  maxArrayElements : Nat := 16
  maxStringLength : Nat := 1024
deriving DecidableEq, Repr, Inhabited

namespace ObjectTree

mutual

/-- The part of a tree that the limits admit, for a tree at a nesting level. -/
def limitAt (limits : InspectLimits) (level : Nat) : ObjectTree → ObjectTree
  | string value truncated =>
    if limits.maxStringLength < value.length then
      string (.ofList (value.toList.take limits.maxStringLength)) true
    else string value truncated
  | object typeName address fields =>
    if limits.maxDepth ≤ level then cutOff limits
    else object typeName address (limitFields limits (level + 1) fields)
  | array elementType length elements =>
    if limits.maxDepth ≤ level then cutOff limits
    else array elementType length
      ((limitElements limits (level + 1) elements).take limits.maxArrayElements)
  | tree => tree

/-- Limits the values of fields. -/
def limitFields (limits : InspectLimits) (level : Nat) :
    List (String × ObjectTree) → List (String × ObjectTree)
  | [] => []
  | (name, value) :: fields => (name, limitAt limits level value) :: limitFields limits level fields

/-- Limits the elements of an array. -/
def limitElements (limits : InspectLimits) (level : Nat) : List ObjectTree → List ObjectTree
  | [] => []
  | element :: elements => limitAt limits level element :: limitElements limits level elements

/-- What stands for a value that is nested too deep. -/
def cutOff (limits : InspectLimits) : ObjectTree :=
  unavailable s!"depth limit {limits.maxDepth} reached"

end

/-- The part of a tree that the limits admit. -/
def limit (limits : InspectLimits) (tree : ObjectTree) : ObjectTree := limitAt limits 0 tree

end ObjectTree

/-- Why an object could not be inspected. -/
inductive InspectionError where
  | notInspectable (address : Address)
  | unavailable (reason : String)
deriving DecidableEq, Repr

/-- The text of an error. -/
def InspectionError.message : InspectionError → String
  | notInspectable address => s!"object at 0x{hexText address.toNat} is not inspectable"
  | unavailable reason => s!"introspection is not available: {reason}"

/-- Inspects objects by address. Its answer may depend on the addresses that it was asked for
before, so it need not give the same answer twice. -/
structure Introspector where
  inspect : (earlier : List Address) → Address → InspectLimits → Except InspectionError ObjectTree

namespace Introspector

/-- Cannot inspect anything. -/
def none : Introspector :=
  ⟨fun _ _ _ => .error (.unavailable "backend has no object introspection")⟩

/-- The object at an address, or what stands for it where the inspection failed. -/
def inspectOrPlaceholder (introspector : Introspector) (earlier : List Address)
    (address : Address) (limits : InspectLimits) : ObjectTree :=
  match introspector.inspect earlier address limits with
  | .ok tree => tree
  | .error e => .unavailable e.message

end Introspector

end Postmortem
