import Postmortem.Session.Channel
import Postmortem.Session.Commands
import Postmortem.Snapshot.Comparison

/-!
# Capture of snapshots

The data of a comparison, with what went wrong while it was fetched.
-/

namespace Postmortem

/-- A snapshot and the channel that it came through. -/
structure CapturedSnapshot where
  snapshot : Snapshot
  channel : Channel

namespace CapturedSnapshot

/-- What a comparison with the snapshot may suffer from, each line behind a label. -/
def warnings (captured : CapturedSnapshot) (label : String) : List String :=
  (captured.channel.session.crashLog.map fun c =>
    s!"{label}: '{c.command}' crashed or timed out ({c.reason})") ++
  (if captured.snapshot.heap.isNone then [s!"{label}: heap histogram not available"] else []) ++
  (if captured.snapshot.threads.isEmpty then [s!"{label}: no threads could be decoded"] else [])

end CapturedSnapshot

/-- Fetches a snapshot: the heap, the threads and the modules. -/
def fetchSnapshot : StateM Channel Snapshot := do
  let heap ← Channel.fetch HeapHistogram.ofListing? Commands.heap
  let threads ← Channel.fetch Thread.ofListing? Commands.threads
  let modules ← Channel.fetch LoadedModule.ofListing? Commands.modules
  return { heap, threads := threads.getD [], modules := modules.getD [] }

/-- Captures the snapshot of a process. -/
def captureSnapshot (config : Config) (backend : Backend) : CapturedSnapshot :=
  let (snapshot, channel) := fetchSnapshot (config.openChannel backend)
  { snapshot, channel }

/-- Compares two captured snapshots; what went wrong is among the warnings. -/
def compareCaptured (thresholds : LeakThresholds) (baseline comparison : CapturedSnapshot) :
    SnapshotDiff :=
  (compareSnapshots thresholds baseline.snapshot comparison.snapshot).withWarnings
    (baseline.warnings "baseline" ++ comparison.warnings "comparison")

end Postmortem
