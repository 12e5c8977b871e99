import Postmortem.Json.Listings
import Postmortem.Snapshot.Comparison

/-!
# Snapshots and their differences as JSON
-/

namespace Postmortem

open Json

namespace Snapshot

def toJson (snapshot : Snapshot) : Json :=
  .obj [("heap", option HeapHistogram.toJson snapshot.heap),
    ("threads", list Thread.toJson snapshot.threads),
    ("modules", list LoadedModule.toJson snapshot.modules)]

def ofJson? (json : Json) : Option Snapshot := do
  let fields ← fields? ["heap", "threads", "modules"] json
  return { heap := ← fields.optional "heap" HeapHistogram.ofJson?
           threads := ← fields.required "threads" (list? Thread.ofJson?)
           modules := ← fields.required "modules" (list? LoadedModule.ofJson?) }

end Snapshot

namespace LeakConfidence

/-- The name of a confidence in records. -/
def name : LeakConfidence → String
  | none => "none"
  | low => "low"
  | medium => "medium"
  | high => "high"

def toJson (confidence : LeakConfidence) : Json := .str confidence.name

def ofJson? : Json → Option LeakConfidence :=
  choice? ([none, low, medium, high].map fun confidence => (confidence.name, confidence))

end LeakConfidence

namespace TypeDelta

def toJson (delta : TypeDelta) : Json :=
  .obj [("type_name", .str delta.typeName), ("baseline_count", nat delta.baselineCount),
    ("comparison_count", nat delta.comparisonCount), ("count_delta", .int delta.countDelta),
    ("baseline_size", nat delta.baselineSize), ("comparison_size", nat delta.comparisonSize),
    ("size_delta", .int delta.sizeDelta)]

def ofJson? (json : Json) : Option TypeDelta := do
  let fields ← fields? ["type_name", "baseline_count", "comparison_count", "count_delta",
    "baseline_size", "comparison_size", "size_delta"] json
  return { typeName := ← fields.required "type_name" str?
           baselineCount := ← fields.required "baseline_count" (nat? 64)
           comparisonCount := ← fields.required "comparison_count" (nat? 64)
           countDelta := ← fields.required "count_delta" int64?
           baselineSize := ← fields.required "baseline_size" (nat? 64)
           comparisonSize := ← fields.required "comparison_size" (nat? 64)
           sizeDelta := ← fields.required "size_delta" int64? }

end TypeDelta

namespace SuspectedLeak

def toJson (leak : SuspectedLeak) : Json :=
  .obj [("type_name", .str leak.typeName), ("pattern", .str leak.pattern),
    ("count_delta", .int leak.countDelta), ("size_delta", .int leak.sizeDelta),
    ("indicator", .str leak.indicator)]

def ofJson? (json : Json) : Option SuspectedLeak := do
  let fields ← fields? ["type_name", "pattern", "count_delta", "size_delta", "indicator"] json
  return { typeName := ← fields.required "type_name" str?
           pattern := ← fields.required "pattern" str?
           countDelta := ← fields.required "count_delta" int64?
           sizeDelta := ← fields.required "size_delta" int64?
           indicator := ← fields.required "indicator" str? }

end SuspectedLeak

namespace HeapDiff

def toJson (diff : HeapDiff) : Json :=
  .obj [("baseline_total_size", nat diff.baselineTotalSize),
    ("comparison_total_size", nat diff.comparisonTotalSize),
    ("total_size_delta", .int diff.totalSizeDelta),
    ("total_size_percent", option .real diff.totalSizePercent),
    ("total_count_delta", .int diff.totalCountDelta),
    ("new_types", list TypeDelta.toJson diff.newTypes),
    ("removed_types", list TypeDelta.toJson diff.removedTypes),
    ("growth", list TypeDelta.toJson diff.growth),
    ("suspected_leaks", list SuspectedLeak.toJson diff.suspectedLeaks),
    ("leak_confidence", diff.leakConfidence.toJson),
    ("memory_leak_suspected", .bool diff.memoryLeakSuspected)]

def ofJson? (json : Json) : Option HeapDiff := do
  let fields ← fields? ["baseline_total_size", "comparison_total_size", "total_size_delta",
    "total_size_percent", "total_count_delta", "new_types", "removed_types", "growth",
    "suspected_leaks", "leak_confidence", "memory_leak_suspected"] json
  return { baselineTotalSize := ← fields.required "baseline_total_size" (nat? 64)
           comparisonTotalSize := ← fields.required "comparison_total_size" (nat? 64)
           totalSizeDelta := ← fields.required "total_size_delta" int64?
           totalSizePercent := ← fields.optional "total_size_percent" real?
           totalCountDelta := ← fields.required "total_count_delta" int64?
           newTypes := ← fields.required "new_types" (list? TypeDelta.ofJson?)
           removedTypes := ← fields.required "removed_types" (list? TypeDelta.ofJson?)
           growth := ← fields.required "growth" (list? TypeDelta.ofJson?)
           suspectedLeaks := ← fields.required "suspected_leaks" (list? SuspectedLeak.ofJson?)
           leakConfidence := ← fields.required "leak_confidence" LeakConfidence.ofJson?
           memoryLeakSuspected := ← fields.required "memory_leak_suspected" bool? }

end HeapDiff

namespace ThreadSummary

def toJson (summary : ThreadSummary) : Json :=
  .obj ([("key", .str summary.key)] ++ optionalMember "name" .str summary.name ++
    [("state", .str summary.state)] ++ optionalMember "top_function" .str summary.topFunction)

def ofJson? (json : Json) : Option ThreadSummary := do
  let fields ← fields? ["key", "name", "state", "top_function"] json
  return { key := ← fields.required "key" str?
           name := ← fields.optional "name" str?
           state := ← fields.required "state" str?
           topFunction := ← fields.optional "top_function" str? }

end ThreadSummary

namespace ThreadChange

def toJson (change : ThreadChange) : Json :=
  .obj [("key", .str change.key), ("before_state", .str change.beforeState),
    ("after_state", .str change.afterState), ("before_top", option .str change.beforeTop),
    ("after_top", option .str change.afterTop)]

def ofJson? (json : Json) : Option ThreadChange := do
  let fields ← fields? ["key", "before_state", "after_state", "before_top", "after_top"] json
  return { key := ← fields.required "key" str?
           beforeState := ← fields.required "before_state" str?
           afterState := ← fields.required "after_state" str?
           beforeTop := ← fields.optional "before_top" str?
           afterTop := ← fields.optional "after_top" str? }

end ThreadChange

namespace ThreadDiff

def toJson (diff : ThreadDiff) : Json :=
  .obj [("new_threads", list ThreadSummary.toJson diff.newThreads),
    ("terminated_threads", list ThreadSummary.toJson diff.terminatedThreads),
    ("state_changes", list ThreadChange.toJson diff.stateChanges),
    ("baseline_waiting", nat diff.baselineWaiting),
    ("comparison_waiting", nat diff.comparisonWaiting),
    ("potential_deadlock", .bool diff.potentialDeadlock)]

def ofJson? (json : Json) : Option ThreadDiff := do
  let fields ← fields? ["new_threads", "terminated_threads", "state_changes",
    "baseline_waiting", "comparison_waiting", "potential_deadlock"] json
  return { newThreads := ← fields.required "new_threads" (list? ThreadSummary.ofJson?)
           terminatedThreads :=
            ← fields.required "terminated_threads" (list? ThreadSummary.ofJson?)
           stateChanges := ← fields.required "state_changes" (list? ThreadChange.ofJson?)
           baselineWaiting := ← fields.required "baseline_waiting" (nat? 64)
           comparisonWaiting := ← fields.required "comparison_waiting" (nat? 64)
           potentialDeadlock := ← fields.required "potential_deadlock" bool? }

end ThreadDiff

namespace ModuleChange

def toJson (change : ModuleChange) : Json :=
  .obj [("name", .str change.name), ("version_before", option .str change.versionBefore),
    ("version_after", option .str change.versionAfter),
    ("base_before", option Address.toJson change.baseBefore),
    ("base_after", option Address.toJson change.baseAfter)]

def ofJson? (json : Json) : Option ModuleChange := do
  let fields ← fields?
    ["name", "version_before", "version_after", "base_before", "base_after"] json
  return { name := ← fields.required "name" str?
           versionBefore := ← fields.optional "version_before" str?
           versionAfter := ← fields.optional "version_after" str?
           baseBefore := ← fields.optional "base_before" Address.ofJson?
           baseAfter := ← fields.optional "base_after" Address.ofJson? }

end ModuleChange

namespace ModuleDiff

def toJson (diff : ModuleDiff) : Json :=
  .obj [("loaded", list LoadedModule.toJson diff.loaded),
    ("unloaded", list LoadedModule.toJson diff.unloaded),
    ("changed", list ModuleChange.toJson diff.changed)]

def ofJson? (json : Json) : Option ModuleDiff := do
  let fields ← fields? ["loaded", "unloaded", "changed"] json
  return { loaded := ← fields.required "loaded" (list? LoadedModule.ofJson?)
           unloaded := ← fields.required "unloaded" (list? LoadedModule.ofJson?)
           changed := ← fields.required "changed" (list? ModuleChange.ofJson?) }

end ModuleDiff

namespace SnapshotDiff

def toJson (diff : SnapshotDiff) : Json :=
  .obj ([("heap", option HeapDiff.toJson diff.heap), ("threads", diff.threads.toJson),
    ("modules", diff.modules.toJson), ("memory_leak_suspected", .bool diff.memoryLeakSuspected),
    ("potential_deadlock", .bool diff.potentialDeadlock)] ++
    nonEmptyMember "warnings" .str diff.warnings)

def ofJson? (json : Json) : Option SnapshotDiff := do
  let fields ← fields? ["heap", "threads", "modules", "memory_leak_suspected",
    "potential_deadlock", "warnings"] json
  return { heap := ← fields.optional "heap" HeapDiff.ofJson?
           threads := ← fields.required "threads" ThreadDiff.ofJson?
           modules := ← fields.required "modules" ModuleDiff.ofJson?
           memoryLeakSuspected := ← fields.required "memory_leak_suspected" bool?
           potentialDeadlock := ← fields.required "potential_deadlock" bool?
           warnings := ← fields.withDefault "warnings" [] (list? str?) }

end SnapshotDiff

end Postmortem
