import Postmortem.Config.Basic
import Postmortem.Heap.Histogram
import Postmortem.Text.Search

/-!
# Heap growth

What happened to each type of a heap between two snapshots, and whether it looks like a leak. The
rows of a type count together. Differences are 64-bit numbers and stop at the limits of their
range.
-/

namespace Postmortem

/-- How likely the growth of a heap is a leak. -/
inductive LeakConfidence where
  | none
  | low
  | medium
  | high
deriving DecidableEq, Repr, Inhabited

namespace LeakConfidence

/-- The place of a confidence in their order. -/
def level : LeakConfidence → Nat
  | none => 0
  | low => 1
  | medium => 2
  | high => 3

/-- The confidence when types are suspected as well. -/
def escalate : LeakConfidence → LeakConfidence
  | none | low => medium
  | medium | high => high

/-- The name of a confidence in texts. -/
def label : LeakConfidence → String
  | none => "None"
  | low => "Low"
  | medium => "Medium"
  | high => "High"

end LeakConfidence

/-- What the growth of a leak-prone type is measured in. -/
inductive GrowthMeasure where
  | count
  | size
deriving DecidableEq, Repr

/-- A part of the names of types that often leak. -/
structure LeakPattern where
  fragment : String
  measure : GrowthMeasure
  advice : String
deriving DecidableEq, Repr

/-- The types that often leak. -/
def leakPatterns : List LeakPattern :=
  [⟨"EventHandler", .count,
    "event handler subscriptions are accumulating; look for missing unsubscribes"⟩,
   ⟨"Delegate", .count,
    "delegate instances are accumulating; look for captured closures kept alive by " ++
    "long-lived objects"⟩,
   ⟨"Timer", .count, "timers are accumulating; look for timers that are never disposed"⟩,
   ⟨"Connection", .count,
    "connections are accumulating; look for connections that are never closed or " ++
    "returned to a pool"⟩,
   ⟨"Socket", .count, "sockets are accumulating; look for undisposed network clients"⟩,
   ⟨"HttpClient", .count,
    "HttpClient instances are accumulating; reuse one client or use a client factory"⟩,
   ⟨"ConcurrentDictionary`", .count,
    "concurrent dictionaries are growing; look for caches without eviction"⟩,
   ⟨"Dictionary`", .count, "dictionaries are growing; look for caches without eviction"⟩,
   ⟨"List`", .count,
    "lists are growing; look for collections that are only ever appended to"⟩,
   ⟨"Queue`", .count, "queues are growing; consumers may be falling behind"⟩,
   ⟨"System.String", .size,
    "string data is growing; look for unbounded string caches or concatenation in loops"⟩,
   ⟨"System.Byte[]", .size,
    "byte arrays are growing; look for buffers that are not returned to a pool"⟩]

/-- The change of one type. -/
structure TypeDelta where
  typeName : String
  baselineCount : Nat
  comparisonCount : Nat
  countDelta : Int
  baselineSize : Nat
  comparisonSize : Nat
  sizeDelta : Int
deriving DecidableEq, Repr, Inhabited

/-- A leak-prone type that has grown. -/
structure SuspectedLeak where
  typeName : String
  pattern : String
  countDelta : Int
  sizeDelta : Int
  indicator : String
deriving DecidableEq, Repr, Inhabited

/-- The change of a heap. -/
structure HeapDiff where
  baselineTotalSize : Nat
  comparisonTotalSize : Nat
  totalSizeDelta : Int
  /-- Growth in percent of the baseline, unless that is empty. -/
  totalSizePercent : Option Binary64
  totalCountDelta : Int
  newTypes : List TypeDelta
  removedTypes : List TypeDelta
  /-- Types of both heaps that have changed, largest growth first. -/
  growth : List TypeDelta
  suspectedLeaks : List SuspectedLeak
  leakConfidence : LeakConfidence
  memoryLeakSuspected : Bool
deriving DecidableEq, Repr, Inhabited

/-- The objects of one type in all rows of a heap. -/
structure TypeTotal where
  typeName : String
  count : Nat
  size : Nat
deriving DecidableEq, Repr, Inhabited

namespace TypeTotal

/-- Adds a row to the total of its type. The sums are exact and have no bound; sums of 64-bit numbers
are these as long as they do not overflow. -/
def addRow (entry : HeapEntry) : List TypeTotal → List TypeTotal
  | [] => [⟨entry.typeName, entry.count, entry.totalSize⟩]
  | t :: ts =>
    if t.typeName = entry.typeName then
      { t with count := t.count + entry.count, size := t.size + entry.totalSize } :: ts
    else t :: addRow entry ts

/-- The total of a type. -/
def find? (totals : List TypeTotal) (typeName : String) : Option TypeTotal :=
  totals.find? fun t => t.typeName == typeName

end TypeTotal

/-- The totals of a heap's types, in the order in which the types occur first. -/
def HeapHistogram.totals (heap : HeapHistogram) : List TypeTotal :=
  heap.entries.foldl (fun totals entry => TypeTotal.addRow entry totals) []

/-- The difference of two numbers, within the range of 64 bits. -/
def signedDelta (before after : Nat) : Int :=
  max (-2 ^ 63) (min (2 ^ 63 - 1) ((after : Int) - before))

namespace TypeDelta

/-- The change of a type between two totals. -/
def between (typeName : String) (before after : TypeTotal) : TypeDelta :=
  { typeName
    baselineCount := before.count
    comparisonCount := after.count
    countDelta := signedDelta before.count after.count
    baselineSize := before.size
    comparisonSize := after.size
    sizeDelta := signedDelta before.size after.size }

/-- Whether the numbers of a type differ. -/
def isChange (d : TypeDelta) : Bool := d.countDelta != 0 || d.sizeDelta != 0

/-- The changes with the largest growth first; equal growth keeps its order. -/
def bySize (deltas : List TypeDelta) : List TypeDelta :=
  deltas.mergeSort fun a b => b.sizeDelta ≤ a.sizeDelta

end TypeDelta

/-- A 64-bit threshold as the signed number that growth is compared with. -/
def signedThreshold (n : Nat) : Int := (n : Int).bmod (2 ^ 64)

/-- Whether a type has grown beyond the threshold of a pattern. -/
def LeakPattern.isTripped (thresholds : LeakThresholds) (d : TypeDelta) (p : LeakPattern) : Bool :=
  mentions d.typeName p.fragment &&
    match p.measure with
    | .count => decide (signedThreshold thresholds.leakProneCount < d.countDelta)
    | .size => decide (signedThreshold thresholds.oversizedGrowthBytes < d.sizeDelta)

/-- The suspicion against a type: the first pattern whose threshold it has outgrown. -/
def suspect? (thresholds : LeakThresholds) (d : TypeDelta) : Option SuspectedLeak :=
  (leakPatterns.find? (·.isTripped thresholds d)).map fun p =>
    { typeName := d.typeName
      pattern := p.fragment
      countDelta := d.countDelta
      sizeDelta := d.sizeDelta
      indicator :=
        s!"{d.typeName} grew by {d.countDelta} instances ({d.sizeDelta} bytes): {p.advice}" }

/-- The confidence that growth alone gives. -/
def growthConfidence (thresholds : LeakThresholds) (totalDelta : Int)
    (percent : Option Binary64) : LeakConfidence :=
  if signedThreshold thresholds.largeAbsoluteBytes ≤ totalDelta then .high
  else if percent.any thresholds.largePercent.le then .medium
  else if 0 < totalDelta then .low
  else .none

/-- The confidence that growth and suspected types give together. -/
def leakConfidence (thresholds : LeakThresholds) (totalDelta : Int) (percent : Option Binary64)
    (suspects : Nat) : LeakConfidence :=
  let confidence := growthConfidence thresholds totalDelta percent
  if thresholds.suspectedTypesForHigh ≤ suspects then .high
  else if 0 < suspects then confidence.escalate
  else confidence

/-- Growth in percent: the quotient of the rounded numbers, rounded, times a hundred, rounded. -/
def growthPercent (delta : Int) (baseline : Nat) : Option Binary64 :=
  if baseline = 0 then none
  else some (((Binary64.ofInt delta).div (.ofInt baseline)).mul (.ofInt 100))

/-- The change between two heaps. -/
def diffHeap (thresholds : LeakThresholds) (baseline comparison : HeapHistogram) : HeapDiff :=
  let before := baseline.totals
  let after := comparison.totals
  let nothing (typeName : String) : TypeTotal := ⟨typeName, 0, 0⟩
  let shared := after.filterMap fun t =>
    (TypeTotal.find? before t.typeName).map fun old => TypeDelta.between t.typeName old t
  let added := (after.filter fun t => (TypeTotal.find? before t.typeName).isNone).map fun t =>
    TypeDelta.between t.typeName (nothing t.typeName) t
  let removed := (before.filter fun t => (TypeTotal.find? after t.typeName).isNone).map fun t =>
    TypeDelta.between t.typeName t (nothing t.typeName)
  let growth := TypeDelta.bySize (shared.filter TypeDelta.isChange)
  let newTypes := TypeDelta.bySize added
  let suspectedLeaks := (growth ++ newTypes).filterMap (suspect? thresholds)
  let totalSizeDelta := signedDelta baseline.totalSize comparison.totalSize
  let percent := growthPercent totalSizeDelta baseline.totalSize
  let confidence := leakConfidence thresholds totalSizeDelta percent suspectedLeaks.length
  { baselineTotalSize := baseline.totalSize
    comparisonTotalSize := comparison.totalSize
    totalSizeDelta
    totalSizePercent := percent
    totalCountDelta := signedDelta baseline.totalCount comparison.totalCount
    newTypes
    removedTypes := removed
    growth, suspectedLeaks
    leakConfidence := confidence
    memoryLeakSuspected := LeakConfidence.medium.level ≤ confidence.level }

end Postmortem
