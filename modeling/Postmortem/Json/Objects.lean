import Postmortem.Json.Record
import Postmortem.Json.Threads
import Postmortem.Transcript

/-!
# Object trees and transcripts as JSON

A tree has a member `kind` that tells how to read the others; as an array it starts with its kind.
-/

namespace Postmortem

open Json

namespace Json

mutual

/-- How deep values are nested in a value. -/
def height : Json → Nat
  | arr items => heightOfItems items + 1
  | obj members => heightOfMembers members + 1
  | _ => 0

/-- The greatest height of items. -/
def heightOfItems : List Json → Nat
  | [] => 0
  | item :: items => max (height item) (heightOfItems items)

/-- The greatest height of members. -/
def heightOfMembers : List (String × Json) → Nat
  | [] => 0
  | (_, value) :: members => max (height value) (heightOfMembers members)

end

end Json

/-- The kinds of trees. -/
inductive TreeKind where
  | null
  | primitive
  | string
  | object
  | array
  | unavailable
deriving DecidableEq, Repr

namespace TreeKind

/-- The name of a kind in records. -/
def name : TreeKind → String
  | null => "null"
  | primitive => "primitive"
  | string => "string"
  | object => "object"
  | array => "array"
  | unavailable => "unavailable"

/-- The kinds in the order of their declaration. -/
def all : List TreeKind := [null, primitive, string, object, array, unavailable]

/-- Reads a kind: its name, or, in a tree that is part of another one, its place. -/
def ofJson? (inner : Bool) : Json → Option TreeKind
  | .str s => all.find? fun kind => kind.name == s
  | .int n => if inner ∧ 0 ≤ n then all[n.toNat]? else none
  | _ => none

end TreeKind

namespace ObjectTree

/-- A tree of some kind with its other members. -/
def tagged (kind : TreeKind) (members : List (String × Json)) : Json :=
  .obj (("kind", .str kind.name) :: members)

mutual

def toJson : ObjectTree → Json
  | null => tagged .null []
  | primitive typeName value =>
    tagged .primitive (optionalMember "type_name" .str typeName ++ [("value", .str value)])
  | string value truncated =>
    tagged .string [("value", .str value), ("truncated", .bool truncated)]
  | object typeName address fields =>
    tagged .object ([("type_name", .str typeName)] ++
      optionalMember "address" Address.toJson address ++ [("fields", .arr (fieldsToJson fields))])
  | array elementType length elements =>
    tagged .array (optionalMember "element_type" .str elementType ++
      [("length", nat length), ("elements", .arr (elementsToJson elements))])
  | unavailable reason => tagged .unavailable [("reason", .str reason)]

/-- The fields of an object. -/
def fieldsToJson : List (String × ObjectTree) → List Json
  | [] => []
  | (name, value) :: fields =>
    .obj [("name", .str name), ("value", value.toJson)] :: fieldsToJson fields

/-- The elements of an array. -/
def elementsToJson : List ObjectTree → List Json
  | [] => []
  | element :: elements => element.toJson :: elementsToJson elements

end

/-- The kind of a tree and the rest of its record. -/
def kind? (inner : Bool) : Json → Option (TreeKind × Json)
  | .obj members =>
    match members.filter fun m => m.1 == "kind" with
    | [(_, kind)] => do
      return (← TreeKind.ofJson? inner kind, .obj (members.filter fun m => m.1 != "kind"))
    | _ => none
  | .arr (kind :: items) => do return (← TreeKind.ofJson? inner kind, .arr items)
  | _ => none

/-- Reads the field of an object, given how to read its value. -/
def field (value? : Json → Option ObjectTree) (json : Json) : Option (String × ObjectTree) := do
  let fields ← fields? ["name", "value"] json
  return (← fields.required "name" str?, ← fields.required "value" value?)

/-- Reads a record without its kind, given how to read the trees in it. -/
def ofMembers? (value? : Json → Option ObjectTree) : TreeKind → Json → Option ObjectTree
  | .null, .arr (_ :: _) => none
  | .null, _ => some null
  | .primitive, json => do
    let fields ← fields? ["type_name", "value"] json
    return primitive (← (fields.withDefault "type_name" none (option? str?)))
      (← fields.required "value" str?)
  | .string, json => do
    let fields ← fields? ["value", "truncated"] json
    return string (← fields.required "value" str?) (← fields.withDefault "truncated" false bool?)
  | .object, json => do
    let fields ← fields? ["type_name", "address", "fields"] json
    return object (← fields.required "type_name" str?)
      (← fields.withDefault "address" none (option? Address.ofJson?))
      (← fields.withDefault "fields" [] (list? (field value?)))
  | .array, json => do
    let fields ← fields? ["element_type", "length", "elements"] json
    return array (← fields.withDefault "element_type" none (option? str?))
      (← fields.required "length" (nat? 64))
      (← fields.withDefault "elements" [] (list? value?))
  | .unavailable, json => do
    let fields ← fields? ["reason"] json
    return unavailable (← fields.required "reason" str?)

/-- Reads a tree whose record has at most some height. -/
def read? (inner : Bool) : (height : Nat) → Json → Option ObjectTree
  | 0, _ => none
  | height + 1, json => do
    let (kind, rest) ← kind? inner json
    ofMembers? (read? true height) kind rest

def ofJson? (json : Json) : Option ObjectTree := read? false json.height json

end ObjectTree

namespace Transcript

def toJson (t : Transcript) : Json :=
  .obj [("commands", ofMap .str t.commands), ("crashes", strings t.crashes),
    ("timeouts", strings t.timeouts), ("objects", ofMap ObjectTree.toJson t.objects)]

/-- The names of a transcript's fields. -/
def fieldNames : List String := ["commands", "crashes", "timeouts", "objects"]

def ofJson? (json : Json) : Option Transcript := do
  let fields ← fields? fieldNames json
  return { commands := ← fields.withDefault "commands" ⟨[]⟩ (map? str?)
           crashes := ← fields.withDefault "crashes" [] (list? str?)
           timeouts := ← fields.withDefault "timeouts" [] (list? str?)
           objects := ← fields.withDefault "objects" ⟨[]⟩ (map? ObjectTree.ofJson?) }

/-- Reads the text of a transcript. -/
def parse? (s : String) : Option Transcript := (parseRecord? fieldNames s).bind ofJson?

end Transcript

end Postmortem
