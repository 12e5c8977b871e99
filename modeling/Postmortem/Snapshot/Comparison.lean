import Postmortem.Heap.Listing
import Postmortem.LoadedModule.Listing
import Postmortem.Snapshot.HeapDiff
import Postmortem.Snapshot.ModuleDiff
import Postmortem.Snapshot.ThreadDiff
import Postmortem.Thread.Listing

/-!
# Comparison of snapshots

Two snapshots of one process are compared by heap, threads and modules. The heaps are compared
only where both could be read.
-/

namespace Postmortem

/-- A process at one time. -/
structure Snapshot where
  heap : Option HeapHistogram := none
  threads : List Thread := []
  modules : List LoadedModule := []
deriving DecidableEq, Repr, Inhabited

/-- The snapshot in three listings; what cannot be read is left empty. -/
def Snapshot.ofListings (heap threads modules : String) : Snapshot :=
  { heap := HeapHistogram.ofListing? heap
    threads := (Thread.ofListing? threads).getD []
    modules := (LoadedModule.ofListing? modules).getD [] }

/-- The differences between two snapshots. -/
structure SnapshotDiff where
  heap : Option HeapDiff
  threads : ThreadDiff
  modules : ModuleDiff
  memoryLeakSuspected : Bool
  potentialDeadlock : Bool
  /-- What went wrong when the snapshots were taken. -/
  warnings : List String := []
deriving DecidableEq, Repr, Inhabited

/-- Compares two snapshots. -/
def compareSnapshots (thresholds : LeakThresholds) (baseline comparison : Snapshot) :
    SnapshotDiff :=
  let heap := match baseline.heap, comparison.heap with
    | some before, some after => some (diffHeap thresholds before after)
    | _, _ => none
  let threads := diffThreads baseline.threads comparison.threads
  { heap, threads
    modules := diffModules baseline.modules comparison.modules
    memoryLeakSuspected := heap.any HeapDiff.memoryLeakSuspected
    potentialDeadlock := threads.potentialDeadlock }

/-- The differences with further warnings. -/
def SnapshotDiff.withWarnings (diff : SnapshotDiff) (warnings : List String) : SnapshotDiff :=
  { diff with warnings := diff.warnings ++ warnings }

end Postmortem
