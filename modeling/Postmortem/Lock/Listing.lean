import Postmortem.Lock.Table
import Postmortem.Stack.ReturnTable

/-!
# Lock listings

The runtime's monitors, one row each, and the operating system's critical sections, one block
each. An owner is printed as a hexadecimal OS id, with or without a prefix.
-/

namespace Postmortem

open Text Scan

/-- The owner with a hexadecimal OS id. -/
def ownerOf (id : List Char) : ThreadId :=
  if "0x".toList.isPrefixOf id then .parse (.ofList id) else .parse ("0x" ++ .ofList id)

namespace LockTable

/-! ### Monitors -/

/-- The owner columns of a row: OS id and thread index, or a word for no owner. -/
def owner : Scan (Option (List Char × List Char)) :=
  (do
    let id ← columnThen fun cs => isRunOf isHexDigit (dropHexPrefix cs)
    let index ← column
    guard (isDigits index || index == "XXXX".toList)
    return some (id, index)) <|>
  (do
    let word ← column
    guard (word == "none".toList)
    return none)

/-- Reads what stands behind the owner: the object and its type. -/
def objectAndType : Scan (Option (List Char) × Option (List Char)) := do
  blanks
  let object ← optional do
    let cs ← column
    guard (isHexColumn 8 16 cs)
    blanks
    return cs
  return (object, ← optional lastColumn)

/-- Reads a monitor: index, sync block, hold count, recursion, owner, object and type. The owner's
thread object may stand in front of its OS id. -/
def monitor : Scan LockEntry := do
  blanks
  let index ← columnThen isDigits
  let syncBlock ← columnThen (isHexColumn 8 16)
  let held ← columnThen isDigits
  let recursion ← columnThen isDigits
  let owner ← (do let _ ← columnThen (isHexColumn 8 16); owner) <|> owner
  let (object, objectType) ← objectAndType
  return { lockId := .ofList index
           syncBlock := Address.read? syncBlock
           monitorHeld := (readUnsigned? 10 32 held).getD 0
           recursion := (readUnsigned? 10 32 recursion).getD 0
           owner := owner.map fun (id, _) => ownerOf id
           ownerIndex := owner.bind fun (_, index) => readUnsigned? 10 32 index
           object := object.bind Address.read?
           objectType := objectType.bind value? }

/-- Whether a text lists monitors. -/
def isMonitorList (text : String) : Bool := mentions text "SyncBlock" && mentions text "MonitorHeld"

/-- The monitors of a text that are held or owned. -/
def monitors (text : String) : List LockEntry :=
  ((lines text.toList).filterMap (front? monitor)).filter fun lock =>
    lock.monitorHeld != 0 || lock.owner.isSome

/-! ### Critical sections -/

/-- Reads the heading of a block: name and address. -/
def heading : Scan LockEntry := do
  blanks
  let _ ← columnThen (· == "CritSec".toList)
  let name ← columnThen fun _ => true
  let _ ← columnThen (· == "at".toList)
  let digits := span1 ReturnTable.isAddressChar
  let address ← (do literal "0x"; return '0' :: 'x' :: (← digits)) <|> digits
  return { lockId := .ofList name
           syncBlock := Address.read? address
           object := Address.read? address
           objectType := some "CRITICAL_SECTION" }

/-- Stores a property of a critical section. The lock count includes the owner; an owner whose id
is zero is none. -/
def store (lock : LockEntry) (label : String) (value : List Char) : LockEntry :=
  let number := readUnsigned? 10 32 value
  match label with
  | "OwningThread" =>
    let owner := ownerOf value
    if owner.hex.any (· != 0) then { lock with owner := some owner } else lock
  | "RecursionCount" => { lock with recursion := number.getD 0 }
  | "LockCount" =>
    { lock with monitorHeld := number.getD 0, waiters := some (number.getD 0 - 1) }
  | "ContentionCount" => if lock.waiters.isNone then { lock with waiters := number } else lock
  | _ => lock

/-- The sections read so far, and the one being read with its lock mark. -/
structure State where
  finished : List LockEntry := []
  current : Option (LockEntry × Bool) := none

/-- All sections that are marked as locked or have an owner. -/
def State.close (s : State) : List LockEntry :=
  match s.current with
  | some (lock, locked) =>
    if locked || lock.owner.isSome then s.finished ++ [lock] else s.finished
  | none => s.finished

/-- Reads one line. -/
def readLine (s : State) (line : List Char) : State :=
  match front? heading line with
  | some lock => { finished := s.close, current := some (lock, false) }
  | none =>
    match s.current with
    | none => s
    | some (lock, locked) =>
      if occursIn "*** Locked".toList line || trim line == "Locked".toList then
        { s with current := some (lock, true) }
      else
        match words line with
        | label :: value :: _ => { s with current := some (store lock (.ofList label) value, locked) }
        | _ => s

/-- Whether a text lists critical sections. -/
def isSectionList (text : String) : Bool := mentions text "CritSec"

/-- The critical sections of a text. -/
def sections (text : String) : List LockEntry := ((lines text.toList).foldl readLine {}).close

/-! ### Listings of either form -/

/-- The locks of a listing. -/
def ofListing? (text : String) : Option LockTable :=
  (if isMonitorList text then nonEmpty (monitors text) else none) <|>
  (if isSectionList text then nonEmpty (sections text) else none)
where
  nonEmpty (locks : List LockEntry) : Option LockTable :=
    if locks.isEmpty then none else some ⟨locks⟩

end LockTable

end Postmortem
