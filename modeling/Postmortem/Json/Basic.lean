import Postmortem.Number.Binary64
import Postmortem.SortedMap

/-!
# JSON values

The data format of transcripts and reports. Integers of 64 bits are kept exactly; all other
numbers are binary floating-point numbers.
-/

namespace Postmortem

/-- A JSON value. -/
inductive Json where
  | null
  | bool (b : Bool)
  | int (n : Int)
  | real (x : Binary64)
  | str (s : String)
  | arr (items : List Json)
  | obj (members : List (String × Json))
deriving Repr, Inhabited, BEq

namespace Json

variable {α : Type}

/-- An array of records. -/
def list (encode : α → Json) (xs : List α) : Json := .arr (xs.map encode)

/-- An array of texts. -/
def strings (xs : List String) : Json := list .str xs

/-- A natural number. -/
def nat (n : Nat) : Json := .int n

/-- A value that may be missing. -/
def option (encode : α → Json) : Option α → Json
  | some a => encode a
  | none => .null

/-- A member that is left out if its value is missing. -/
def optionalMember (name : String) (encode : α → Json) (value : Option α) :
    List (String × Json) :=
  (value.map fun a => (name, encode a)).toList

/-- A member that is left out if its list is empty. -/
def nonEmptyMember (name : String) (encode : α → Json) (xs : List α) : List (String × Json) :=
  if xs.isEmpty then [] else [(name, list encode xs)]

/-- An object with the entries of a map. -/
def ofMap (encode : α → Json) (map : SortedMap α) : Json :=
  .obj (map.entries.map fun (name, a) => (name, encode a))

/-- A member that is left out if its map is empty. -/
def nonEmptyMapMember (name : String) (encode : α → Json) (map : SortedMap α) :
    List (String × Json) :=
  if map.isEmpty then [] else [(name, ofMap encode map)]

/-- The text, if the value is one. -/
def str? : Json → Option String
  | .str s => some s
  | _ => none

/-- The truth value, if the value is one. -/
def bool? : Json → Option Bool
  | .bool b => some b
  | _ => none

/-- The number, if the value is a natural number of at most `bits` bits. -/
def nat? (bits : Nat) : Json → Option Nat
  | .int n => if 0 ≤ n ∧ n < (1 <<< bits : Nat) then some n.toNat else none
  | _ => none

/-- The number, if the value is an integer from `-2 ^ 63` up to `2 ^ 63 - 1`. -/
def int64? : Json → Option Int
  | .int n => if -2 ^ 63 ≤ n ∧ n < 2 ^ 63 then some n else none
  | _ => none

/-- The number, if the value is one; an integer is rounded. -/
def real? : Json → Option Binary64
  | .real x => some x
  | .int n => some (.ofInt n)
  | _ => none

/-- The items, if the value is an array of items of one kind. -/
def list? (decode : Json → Option α) : Json → Option (List α)
  | .arr items => items.mapM decode
  | _ => none

/-- The entries, if the value is an object with values of one kind. Of two values with one name
the later counts. -/
def map? (decode : Json → Option α) : Json → Option (SortedMap α)
  | .obj members =>
    (members.mapM fun m => (decode m.2).map fun a => (m.1, a)).map .ofList
  | _ => none

/-- The value, unless it is null. -/
def option? (decode : Json → Option α) : Json → Option (Option α)
  | .null => some none
  | json => (decode json).map some

end Json

end Postmortem
