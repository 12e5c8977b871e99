import Postmortem.Frame
import Postmortem.Thread.Id

/-!
# Threads

A thread of the crashed process with its call stack.
-/

namespace Postmortem

/-- A thread with its call stack, innermost frame first. -/
structure Thread where
  /-- The number of the thread in the debugger's own list. -/
  id : ThreadId := .empty
  osThreadId : Option ThreadId := none
  managedId : Option Nat := none
  name : Option String := none
  state : String := ""
  isFaulting : Bool := false
  callStack : List Frame := []
  isThreadPool : Bool := false
  lockCount : Nat := 0
  exception : Option String := none
deriving DecidableEq, Repr, Inhabited

namespace Thread

/-- The function of the innermost frame. -/
def topFunction (thread : Thread) : Option String := thread.callStack.head?.bind Frame.function

/-- Whether the thread goes by the id, as its own or its OS id. -/
def hasId (thread : Thread) (id : ThreadId) : Bool :=
  thread.id.isSame id || thread.osThreadId.any (·.isSame id)

/-- The key under which the thread is known in every snapshot of the process. -/
def identityKey (thread : Thread) : String := (thread.osThreadId.getD thread.id).key

end Thread

end Postmortem
