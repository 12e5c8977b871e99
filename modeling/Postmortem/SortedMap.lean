/-!
# Sorted maps

Named values in the order of their names. Each name occurs once; storing a value under a name
replaces the one that was there.
-/

namespace Postmortem

/-- Values by name, in the order of the names. -/
structure SortedMap (α : Type) where
  entries : List (String × α) := []
deriving DecidableEq, Repr, Inhabited

namespace SortedMap

variable {α : Type}

/-- Puts an entry at its place in a sorted list. -/
def insertEntry (name : String) (value : α) : List (String × α) → List (String × α)
  | [] => [(name, value)]
  | (n, v) :: rest =>
    if name = n then (name, value) :: rest
    else if name < n then (name, value) :: (n, v) :: rest
    else (n, v) :: insertEntry name value rest

/-- Stores a value under a name. -/
def insert (map : SortedMap α) (name : String) (value : α) : SortedMap α :=
  ⟨insertEntry name value map.entries⟩

/-- Stores entries one after the other. -/
def insertAll (map : SortedMap α) (entries : List (String × α)) : SortedMap α :=
  entries.foldl (fun m (name, value) => m.insert name value) map

/-- The map that holds the last value of each name. -/
def ofList (entries : List (String × α)) : SortedMap α := insertAll ⟨[]⟩ entries

/-- The value under a name. -/
def get? (map : SortedMap α) (name : String) : Option α :=
  (map.entries.find? fun (n, _) => n == name).map Prod.snd

/-- Whether nothing is stored. -/
def isEmpty (map : SortedMap α) : Bool := map.entries.isEmpty

end SortedMap

end Postmortem
