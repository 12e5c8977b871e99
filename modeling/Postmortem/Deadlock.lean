import Postmortem.Lock.Table
import Postmortem.Thread.State

/-!
# Deadlocks

The threads that hold a lock and wait at the same time. Two of them are reported as a deadlock and
one as an advisory. It is a necessary condition only: the lock table does not tell which lock a
thread waits for.
-/

namespace Postmortem

/-- What the locks say about a deadlock. -/
inductive DeadlockVerdict where
  | none
  /-- One thread holds a lock and waits. -/
  | advisory
  | deadlock
deriving DecidableEq, Repr, Inhabited

/-- A lock that threads wait for. -/
structure ContendedLock where
  lockId : String
  owner : Option ThreadId
  waiters : Nat
  objectType : Option String
deriving DecidableEq, Repr, Inhabited

/-- The findings on deadlocks. -/
structure DeadlockAnalysis where
  verdict : DeadlockVerdict := .none
  /-- The holders that wait. -/
  involvedThreads : List ThreadId := []
  holders : List ThreadId := []
  waiting : List ThreadId := []
  contendedLocks : List ContendedLock := []
  description : String := ""
deriving DecidableEq, Repr, Inhabited

/-- How many threads must hold a lock and wait to make a deadlock. -/
def minDeadlockThreads : Nat := 2

/-- Adds an id unless an id of the same thread is listed. -/
def addThread (ids : List ThreadId) (id : ThreadId) : List ThreadId :=
  if ids.any (·.isSame id) then ids else ids ++ [id]

/-- The ids without those of threads that are listed before. -/
def distinctThreads (ids : List ThreadId) : List ThreadId := ids.foldl addThread []

/-- The verdict on a number of involved threads. -/
def DeadlockVerdict.ofCount (n : Nat) : DeadlockVerdict :=
  if n = 0 then .none else if n < minDeadlockThreads then .advisory else .deadlock

/-- The sentence about the involved threads. -/
def describeInvolved (involved : List ThreadId) : String :=
  let names := ", ".intercalate (involved.map ThreadId.raw)
  match DeadlockVerdict.ofCount involved.length with
  | .none => "no thread both holds a lock and waits"
  | .advisory => s!"thread {names} holds a lock while waiting"
  | .deadlock => s!"{involved.length} threads hold locks while waiting: {names}"

/-- The locks that threads wait for. -/
def LockTable.contended (locks : LockTable) : List ContendedLock :=
  (locks.entries.filter fun lock => 0 < lock.waiterEstimate).map fun lock =>
    { lockId := lock.lockId
      owner := lock.owner
      waiters := lock.waiterEstimate
      objectType := lock.objectType }

/-- Judges the locks of a process by the wait flags of its threads. -/
def analyzeLocks (locks : LockTable) (states : List ThreadState) : DeadlockAnalysis :=
  let holders := distinctThreads (locks.entries.filterMap LockEntry.owner)
  let waiting := distinctThreads ((states.filter ThreadState.waiting).map ThreadState.thread)
  let involved := holders.filter fun holder => waiting.any (·.isSame holder)
  { verdict := .ofCount involved.length
    involvedThreads := involved
    holders, waiting
    contendedLocks := locks.contended
    description := describeInvolved involved }

/-- Whether a deadlock was found. -/
def DeadlockAnalysis.isDeadlock (analysis : DeadlockAnalysis) : Bool :=
  analysis.verdict == .deadlock

end Postmortem
