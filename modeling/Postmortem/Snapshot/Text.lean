import Postmortem.Number.Decimal
import Postmortem.Snapshot.Comparison
import Postmortem.Text.ReportLine

/-!
# Texts of comparisons

The report on two snapshots for people.
-/

namespace Postmortem

open Text

/-- A number of bytes with one place behind the point, in units of a power of two. -/
def bytesIn (unitBits : Nat) (bytes : Nat) : String :=
  Decimal.withPoint
    (Binary64.roundDiv ((Binary64.ofInt bytes).scaledAbs * 10) ((2 ^ 1074) <<< unitBits)) 1

/-- A change in bytes, in the largest unit that it fills. -/
def bytesText (bytes : Int) : String :=
  let size := bytes.natAbs
  let sign := if bytes < 0 then "-" else "+"
  if 1024 * 1024 ≤ size then s!"{sign}{bytesIn 20 size} MiB"
  else if 1024 ≤ size then s!"{sign}{bytesIn 10 size} KiB"
  else s!"{sign}{size} B"

/-- A text that may be unknown. -/
def orUnknown (s : Option String) : String := s.getD "?"

namespace HeapDiff

/-- The lines about a heap. -/
def lines (heap : HeapDiff) : List String :=
  let percent := match heap.totalSizePercent with
    | some p => s!", {p.onePlaceSigned}%"
    | none => ""
  ["Heap:",
    s!"  Total size: {heap.baselineTotalSize} -> {heap.comparisonTotalSize} " ++
      s!"({bytesText heap.totalSizeDelta}){percent}",
    s!"  Leak confidence: {heap.leakConfidence.label}",
    s!"  New types: {heap.newTypes.length}, removed types: {heap.removedTypes.length}"] ++
  (if heap.growth.isEmpty then [] else
    ["", "  Top growth:"] ++ (heap.growth.take 10).map fun d =>
      s!"    {padRight 50 d.typeName} count {signedText d.countDelta} size {bytesText d.sizeDelta}") ++
  (if heap.suspectedLeaks.isEmpty then [] else
    ["", "  Suspected leaking types:"] ++ heap.suspectedLeaks.map fun leak =>
      s!"    - {leak.indicator}")

end HeapDiff

namespace ThreadDiff

/-- The line about a thread. -/
def changeLine (change : ThreadChange) : String :=
  let top := if change.beforeTop != change.afterTop then
      s!" (top: {orUnknown change.beforeTop} -> {orUnknown change.afterTop})"
    else ""
  s!"  {change.key}: {change.beforeState} -> {change.afterState}{top}"

/-- The lines about threads. -/
def lines (threads : ThreadDiff) (potentialDeadlock : Bool) : List String :=
  ["Threads:",
    s!"  New: {threads.newThreads.length}, terminated: {threads.terminatedThreads.length}, " ++
      s!"changed: {threads.stateChanges.length}",
    s!"  Waiting: {threads.baselineWaiting} -> {threads.comparisonWaiting}"] ++
  (if potentialDeadlock then
    [s!"  {warningMark}More threads are waiting than in the baseline (potential deadlock)"]
  else []) ++
  threads.stateChanges.map changeLine

end ThreadDiff

namespace ModuleDiff

/-- The lines about a module. -/
def changeLines (change : ModuleChange) : List String :=
  (if change.versionChanged then
    [s!"  ~ {change.name} version {orUnknown change.versionBefore} -> " ++
      orUnknown change.versionAfter]
  else []) ++
  (if change.rebased then [s!"  ~ {change.name} rebased"] else [])

/-- The lines about modules. -/
def lines (modules : ModuleDiff) : List String :=
  ["Modules:"] ++
  modules.loaded.map (fun m => s!"  + {m.name}") ++
  modules.unloaded.map (fun m => s!"  - {m.name}") ++
  modules.changed.flatMap changeLines ++
  (if modules.loaded.isEmpty && modules.unloaded.isEmpty && modules.changed.isEmpty then
    ["  no changes"]
  else [])

end ModuleDiff

namespace SnapshotDiff

/-- The line with the verdict. -/
def headline (diff : SnapshotDiff) : String :=
  if diff.memoryLeakSuspected then findingMark ++ "MEMORY LEAK SUSPECTED"
  else if diff.heap.isNone then "❓ MEMORY LEAK UNKNOWN (heap not available in both snapshots)"
  else "✅ NO MEMORY LEAK SUSPECTED"

/-- The report on the differences. -/
def text (diff : SnapshotDiff) : String :=
  let heapLines := match diff.heap with
    | some heap => heap.lines
    | none => ["Heap: not available in both snapshots"]
  linesText ([diff.headline] ++ diff.warnings.map (warningMark ++ ·) ++ [""] ++ heapLines ++
    [""] ++ diff.threads.lines diff.potentialDeadlock ++ [""] ++ diff.modules.lines)

end SnapshotDiff

end Postmortem
