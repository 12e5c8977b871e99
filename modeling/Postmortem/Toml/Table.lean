import Postmortem.Json.Basic

/-!
# Tables of settings files

A file writes its tables in pieces: headings open tables, and dotted keys make tables on the way.
No piece may write what another one has written. A table that a heading only passes through can be
opened later, and a table that dotted keys have made can be extended by dotted keys.
-/

namespace Postmortem.Toml

/-- How a table came to be. -/
inductive Origin where
  /-- A heading opened it. -/
  | heading
  /-- A heading passed through it. -/
  | passed
  /-- A dotted key passed through it. -/
  | dotted
deriving DecidableEq, Repr

/-- A part of a file that is being read. -/
inductive Node where
  | value (json : Json)
  | table (origin : Origin) (members : List (String × Node))
  /-- Tables under one heading, the last one in front. -/
  | tables (elements : List (List (String × Node)))

/-- The members of a table. -/
abbrev Members := List (String × Node)

namespace Members

/-- The node under a name. -/
def find? (members : Members) (name : String) : Option Node :=
  (List.find? (fun m => m.1 == name) members).map Prod.snd

/-- Stores a node under a name, in place of the one that was there. -/
def store (members : Members) (name : String) (node : Node) : Members :=
  members.filter (fun m => m.1 != name) ++ [(name, node)]

/-- Changes the table at a path. Tables that are missing on the way are made, and each of the others
has to be admitted, by its origin and by whether it is the last one; an element of several tables
counts as opened by a heading. -/
def changeAt (created : Origin) (admits : (isLast : Bool) → Node → Bool)
    (change : Members → Option Members) : List String → Members → Option Members
  | [], members => change members
  | name :: path, members => do
    let (inner, wrap) ← match members.find? name with
      | none => some ([], Node.table created)
      | some (.value _) => none
      | some (.table origin inner) =>
        if admits path.isEmpty (.table origin inner) then some (inner, Node.table origin) else none
      | some (.tables elements) =>
        if admits path.isEmpty (.tables elements) then
          some (elements.headD [], fun element => .tables (element :: elements.tail))
        else none
    return members.store name (wrap (← changeAt created admits change path inner))

/-- Changes the table that a heading names. -/
def changeUnder (change : Members → Option Members) : List String → Members → Option Members :=
  changeAt .passed (fun _ _ => true) change

/-- Whether a dotted key may pass a table, or end in it. -/
def admitsKey (isLast : Bool) : Node → Bool
  | .table .dotted _ => true
  | .table .passed _ | .tables _ => !isLast
  | _ => false

/-- Writes a value under a dotted key: the path to its table and the name there. -/
def write (path : List String) (name : String) (value : Json) : Members → Option Members :=
  changeAt .dotted admitsKey (fun members =>
    match members.find? name with
    | some _ => none
    | none => some (members.store name (.value value))) path

/-- Opens a table, unless it is open already. -/
def openTable (path : List String) (name : String) : Members → Option Members :=
  changeUnder (fun members =>
    match members.find? name with
    | none => some (members.store name (.table .heading []))
    | some (.table .passed inner) => some (members.store name (.table .heading inner))
    | some _ => none) path

/-- Opens the next one of several tables. -/
def openElement (path : List String) (name : String) : Members → Option Members :=
  changeUnder (fun members =>
    match members.find? name with
    | none => some (members.store name (.tables [[]]))
    | some (.tables elements) => some (members.store name (.tables ([] :: elements)))
    | some _ => none) path

end Members

mutual

/-- The value of a node. -/
def Node.toJson : Node → Json
  | .value json => json
  | .table _ members => .obj (membersToJson members)
  | .tables elements => .arr (elementsToJson elements).reverse

/-- The values of members. -/
def membersToJson : List (String × Node) → List (String × Json)
  | [] => []
  | (name, node) :: members => (name, node.toJson) :: membersToJson members

/-- The values of elements. -/
def elementsToJson : List (List (String × Node)) → List Json
  | [] => []
  | members :: elements => .obj (membersToJson members) :: elementsToJson elements

end

end Postmortem.Toml
