import Postmortem.Thread
import Postmortem.Thread.State

/-!
# Changes of threads

Which threads came and went between two snapshots, and which of the others changed. Threads are
known by their identity keys.
-/

namespace Postmortem

/-- A thread that is in one of two snapshots. -/
structure ThreadSummary where
  key : String
  name : Option String
  state : String
  topFunction : Option String
deriving DecidableEq, Repr, Inhabited

/-- A thread whose state or innermost function changed. -/
structure ThreadChange where
  key : String
  beforeState : String
  afterState : String
  beforeTop : Option String
  afterTop : Option String
deriving DecidableEq, Repr, Inhabited

/-- The changes of threads. -/
structure ThreadDiff where
  newThreads : List ThreadSummary := []
  terminatedThreads : List ThreadSummary := []
  stateChanges : List ThreadChange := []
  baselineWaiting : Nat := 0
  comparisonWaiting : Nat := 0
  /-- More threads wait than before. -/
  potentialDeadlock : Bool := false
deriving DecidableEq, Repr, Inhabited

namespace Thread

/-- The summary of a thread. -/
def summary (thread : Thread) : ThreadSummary :=
  ⟨thread.identityKey, thread.name, thread.state, thread.topFunction⟩

/-- Whether the state or the innermost function of a thread names a wait. -/
def isWaiting (thread : Thread) : Bool :=
  mentionsWait thread.state || thread.topFunction.any mentionsWait

/-- The change of a thread, if there is one. -/
def change? (before after : Thread) : Option ThreadChange :=
  if before.state != after.state || before.topFunction != after.topFunction then
    some ⟨after.identityKey, before.state, after.state, before.topFunction, after.topFunction⟩
  else none

end Thread

/-- The threads whose keys do not occur among others. -/
def threadsMissingFrom (others threads : List Thread) : List Thread :=
  threads.filter fun t => !others.any fun o => o.identityKey == t.identityKey

/-- The changes between two lists of threads. Of several threads with one key, the first one of
the baseline is compared. -/
def diffThreads (baseline comparison : List Thread) : ThreadDiff :=
  let baselineWaiting := (baseline.filter Thread.isWaiting).length
  let comparisonWaiting := (comparison.filter Thread.isWaiting).length
  { newThreads := (threadsMissingFrom baseline comparison).map Thread.summary
    terminatedThreads := (threadsMissingFrom comparison baseline).map Thread.summary
    stateChanges := comparison.filterMap fun after =>
      (baseline.find? fun t => t.identityKey == after.identityKey).bind (·.change? after)
    baselineWaiting, comparisonWaiting
    potentialDeadlock := baselineWaiting < comparisonWaiting }

end Postmortem
