import Postmortem.Heap.Listing
import Postmortem.Member.Listing
import Postmortem.Member.Resolution
import Postmortem.Session.Basic

/-!
# Types of a session

The commands that look types up in a process. The heap is only asked for if it is not yet known.
-/

namespace Postmortem

/-- A session with the heap that it has shown so far. -/
structure TypeSession where
  session : Session
  heap : Option HeapHistogram := none

namespace TypeSession

/-- The command that looks a type up by its name. -/
def lookUpCommand (typeName : String) : String := s!"name2ee *!{typeName}"

/-- The command that lists the members of a type. -/
def membersCommand (methodTable : Address) : String :=
  "dumpmt -md " ++ .ofList (Text.hexPadded 16 methodTable.toNat)

/-- The command that lists the heap. -/
def heapCommand : String := "dumpheap -stat"

/-- The output of a command. -/
def output? (command : String) : StateM TypeSession (Option String) := fun s =>
  let (outcome, session) := Session.run command s.session
  (outcome.output?, { s with session })

/-- The heap, which is listed at most once with success. -/
def heapHistogram : StateM TypeSession (Option HeapHistogram) := do
  match (← get).heap with
  | some heap => return some heap
  | none =>
    let heap := (← output? heapCommand).bind HeapHistogram.ofListing?
    modify fun s => { s with heap }
    return heap

/-- The types of the process. -/
def catalog : TypeCatalog TypeSession where
  findType typeName := do
    return (← output? (lookUpCommand typeName)).bind TypeLookup.ofListing?
  dumpMembers methodTable := do
    return (← output? (membersCommand methodTable)).bind MemberTable.ofListing?
  heapHistogram := heapHistogram

end TypeSession

end Postmortem
