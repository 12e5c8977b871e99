import Postmortem.Thread.Id

/-!
# Lock tables

The monitors and critical sections that are held, with owners and waiters.
-/

namespace Postmortem

/-- One lock. -/
structure LockEntry where
  lockId : String
  syncBlock : Option Address := none
  monitorHeld : Nat := 0
  recursion : Nat := 0
  owner : Option ThreadId := none
  ownerIndex : Option Nat := none
  object : Option Address := none
  objectType : Option String := none
  /-- The number of waiting threads, where the debugger prints it. -/
  waiters : Option Nat := none
deriving DecidableEq, Repr, Inhabited

/-- The printed number of waiters, or else the one that the hold count implies: it counts the
owner once and each waiter twice. -/
def LockEntry.waiterEstimate (lock : LockEntry) : Nat :=
  lock.waiters.getD ((lock.monitorHeld - 1) / 2)

/-- The locks of a process. -/
structure LockTable where
  entries : List LockEntry := []
deriving DecidableEq, Repr, Inhabited

end Postmortem
