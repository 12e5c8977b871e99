import Postmortem.Json.Basic

/-!
# Fields of JSON records

A record is written as an object, or as an array of its fields in their order. An object may have
further members, and none of its fields may occur twice; an array has no further items.
-/

namespace Postmortem.Json

/-- The fields of a record, by name. -/
structure Fields where
  /-- Whether the record is an array, so that only fields with a default may be missing. -/
  positional : Bool
  get : String → Option Json

/-- The record's fields, if the value is a record with fields of these names. -/
def fields? (names : List String) : Json → Option Fields
  | .obj members =>
    if names.all fun name => (members.filter fun m => m.1 == name).length ≤ 1 then
      some ⟨false, fun name => (members.find? fun m => m.1 == name).map Prod.snd⟩
    else none
  | .arr items =>
    if items.length ≤ names.length then
      some ⟨true, fun name => ((names.zip items).find? fun m => m.1 == name).map Prod.snd⟩
    else none
  | _ => none

namespace Fields

variable {α : Type}

/-- A field that must be present. -/
def required (fields : Fields) (name : String) (decode : Json → Option α) : Option α :=
  (fields.get name).bind decode

/-- A field that may be null or missing. -/
def optional (fields : Fields) (name : String) (decode : Json → Option α) : Option (Option α) :=
  match fields.get name with
  | some json => option? decode json
  | none => if fields.positional then none else some none

/-- A field that has a default where it is missing. -/
def withDefault (fields : Fields) (name : String) (default : α) (decode : Json → Option α) :
    Option α :=
  match fields.get name with
  | some json => decode json
  | none => some default

end Fields

/-- One of several names: a text, or an object whose only member has the name and is null. -/
def choice? {α : Type} (choices : List (String × α)) (json : Json) : Option α :=
  let name := match json with
    | .str s => some s
    | .obj [(s, .null)] => some s
    | _ => none
  name.bind fun s => (choices.find? fun c => c.1 == s).map Prod.snd

end Postmortem.Json
