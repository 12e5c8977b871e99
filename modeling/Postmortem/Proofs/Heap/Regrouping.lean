import Postmortem.Proofs.Heap.LeakRules

/-!
# Heaps with other rows and the same totals

A heap can be listed in many ways: in another order, or with the objects of a type in several rows.
Such listings have the same totals (`SameTotals`). In the difference of two heaps the order of the
rows decides nothing but the order of the types: that of changes of equal growth, as sorting keeps
it, that of the removed types and that of the suspicions.

* `SameTotals.of_perm`, `SameTotals.of_split`: rows in another order and rows that are split.
* `bySize_sameUpToTies`: what is sorted by growth is determined up to changes of equal growth.
* `diffHeap_matches`: **the difference of two heaps depends on their totals only.**
-/

namespace Postmortem

namespace HeapHistogram

/-- **Two listings of a heap have the same totals**: the same types, with the same sums over their
rows, and the same printed total of objects. -/
structure SameTotals (a a' : HeapHistogram) : Prop where
  types : ∀ name, name ∈ a.typeNames ↔ name ∈ a'.typeNames
  objects : ∀ name, a.objectsOf name = a'.objectsOf name
  bytes : ∀ name, a.bytesOf name = a'.bytesOf name
  totalObjects : a.totalObjects = a'.totalObjects

/-- Rows in another order have the same totals. -/
theorem SameTotals.of_perm {rows rows' : List HeapEntry} (h : rows.Perm rows')
    (totalObjects : Option ℕ) : SameTotals ⟨rows, totalObjects⟩ ⟨rows', totalObjects⟩ where
  types _ := (h.map HeapEntry.typeName).mem_iff
  objects _ := ((h.filter _).map HeapEntry.count).sum_eq
  bytes _ := ((h.filter _).map HeapEntry.totalSize).sum_eq
  totalObjects := rfl

section Split

variable {parts : List HeapEntry} {row : HeapEntry}

/-- A sum over the rows of a type does not change if a row is split into parts of its type. -/
theorem sum_rows_of_split (htype : ∀ part ∈ parts, part.typeName = row.typeName)
    {measure : HeapEntry → ℕ} (hmeasure : (parts.map measure).sum = measure row)
    (front behind : List HeapEntry) (name : String) :
    (((front ++ row :: behind).filter (·.typeName = name)).map measure).sum =
      (((front ++ (parts ++ behind)).filter (·.typeName = name)).map measure).sum := by
  simp only [List.filter_append, List.map_append, List.sum_append]
  by_cases hname : row.typeName = name
  · have hall : parts.filter (·.typeName = name) = parts :=
      List.filter_eq_self.2 fun part hpart => by simp [htype part hpart, hname]
    rw [List.filter_cons_of_pos (by simpa using hname), hall, List.map_cons, List.sum_cons,
      hmeasure]
  · have hnone : parts.filter (·.typeName = name) = [] :=
      List.filter_eq_nil_iff.2 fun part hpart => by simp [htype part hpart, hname]
    rw [List.filter_cons_of_neg (by simpa using hname), hnone, List.map_nil, List.sum_nil,
      Nat.zero_add]

/-- The parts of a row are of its type and of no other. -/
theorem mem_typeNames_of_split (htype : ∀ part ∈ parts, part.typeName = row.typeName)
    (hne : parts ≠ []) (name : String) :
    name ∈ parts.map HeapEntry.typeName ↔ name = row.typeName := by
  rw [List.mem_map]
  constructor
  · rintro ⟨part, hpart, rfl⟩
    exact htype part hpart
  · rintro rfl
    obtain ⟨first, hfirst⟩ := List.exists_mem_of_ne_nil parts hne
    exact ⟨first, hfirst, htype first hfirst⟩

/-- A row can be split into several rows of its type with the same sums. -/
theorem SameTotals.of_split (front behind : List HeapEntry)
    (htype : ∀ part ∈ parts, part.typeName = row.typeName) (hne : parts ≠ [])
    (hcount : (parts.map HeapEntry.count).sum = row.count)
    (hsize : (parts.map HeapEntry.totalSize).sum = row.totalSize) (totalObjects : Option ℕ) :
    SameTotals ⟨front ++ row :: behind, totalObjects⟩
      ⟨front ++ (parts ++ behind), totalObjects⟩ where
  types name := by
    unfold typeNames
    simp only [List.map_append, List.map_cons, List.mem_append, List.mem_cons,
      mem_typeNames_of_split htype hne]
  objects := sum_rows_of_split htype hcount front behind
  bytes := sum_rows_of_split htype hsize front behind
  totalObjects := rfl

end Split

variable {a a' : HeapHistogram}

theorem SameTotals.types_perm (h : a.SameTotals a') : a.types.Perm a'.types := by
  rw [List.perm_ext_iff_of_nodup a.nodup_types a'.nodup_types]
  intro name
  rw [mem_types, mem_types, h.types]

theorem SameTotals.notMem_iff (h : a.SameTotals a') (name : String) :
    name ∉ a.typeNames ↔ name ∉ a'.typeNames := not_congr (h.types name)

theorem SameTotals.differs_iff {b b' : HeapHistogram} (ha : a.SameTotals a')
    (hb : b.SameTotals b') (name : String) : a.Differs b name ↔ a'.Differs b' name := by
  unfold Differs
  rw [ha.objects, ha.bytes, hb.objects, hb.bytes]

theorem SameTotals.totalSize (h : a.SameTotals a') : a.totalSize = a'.totalSize := by
  rw [← a.sum_bytesOf fun _ hn => List.mem_toFinset.2 hn,
    ← a'.sum_bytesOf fun _ hn => List.mem_toFinset.2 ((h.types _).2 hn)]
  exact Finset.sum_congr rfl fun name _ => h.bytes name

theorem SameTotals.totalCount (h : a.SameTotals a') : a.totalCount = a'.totalCount := by
  have hrows : (a.entries.map HeapEntry.count).sum = (a'.entries.map HeapEntry.count).sum := by
    rw [← a.sum_objectsOf fun _ hn => List.mem_toFinset.2 hn,
      ← a'.sum_objectsOf fun _ hn => List.mem_toFinset.2 ((h.types _).2 hn)]
    exact Finset.sum_congr rfl fun name _ => h.objects name
  unfold HeapHistogram.totalCount
  rw [h.totalObjects]
  exact congrArg _ hrows

end HeapHistogram

/-! ## Sorted changes -/

namespace TypeDelta

/-- **Two lists of changes differ only in the order of changes of equal growth.** -/
structure SameUpToTies (deltas others : List TypeDelta) : Prop where
  perm : deltas.Perm others
  sizeDeltas : deltas.map sizeDelta = others.map sizeDelta

/-- **What is sorted by growth is determined up to changes of equal growth.** -/
theorem bySize_sameUpToTies {deltas others : List TypeDelta} (h : deltas.Perm others) :
    SameUpToTies (bySize deltas) (bySize others) := by
  have hperm : (bySize deltas).Perm (bySize others) :=
    (bySize_perm deltas).trans (h.trans (bySize_perm others).symm)
  refine ⟨hperm, ?_⟩
  -- a list of numbers can be sorted in one way only
  exact (hperm.map sizeDelta).eq_of_pairwise (fun _ _ _ _ hba hab => le_antisymm hab hba)
    (List.pairwise_map.2 (bySize_pairwise deltas)) (List.pairwise_map.2 (bySize_pairwise others))

/-- Changes that are sorted stay as they are. -/
theorem bySize_eq_self {deltas : List TypeDelta}
    (h : deltas.Pairwise fun d e => e.sizeDelta ≤ d.sizeDelta) : bySize deltas = deltas :=
  List.mergeSort_of_pairwise (h.imp decide_eq_true)

variable {a a' b b' : HeapHistogram}

/-- The change of a type depends on its sums only. -/
theorem ofType_congr (ha : a.SameTotals a') (hb : b.SameTotals b') : ofType a b = ofType a' b' := by
  funext name
  unfold ofType
  rw [ha.objects, ha.bytes, hb.objects, hb.bytes]

/-- The changes of those types of a heap that have a property. -/
theorem map_ofType_perm {c c' : HeapHistogram} (ha : a.SameTotals a') (hb : b.SameTotals b')
    (hc : c.SameTotals c') {p p' : String → Prop} [DecidablePred p] [DecidablePred p']
    (h : ∀ name, p name ↔ p' name) :
    ((c.types.filter (p ·)).map (ofType a b)).Perm
      ((c'.types.filter (p' ·)).map (ofType a' b')) := by
  have hchosen : c'.types.filter (p ·) = c'.types.filter (p' ·) :=
    List.filter_congr fun name _ => decide_eq_decide.2 (h name)
  rw [ofType_congr ha hb, ← hchosen]
  exact (hc.types_perm.filter _).map _

end TypeDelta

/-! ## Differences -/

/-- **Two heap differences match**: they tell the same about the heaps and about each type, and
come to the same verdict. -/
structure HeapDiff.Matches (diff other : HeapDiff) : Prop where
  baselineTotalSize : diff.baselineTotalSize = other.baselineTotalSize
  comparisonTotalSize : diff.comparisonTotalSize = other.comparisonTotalSize
  totalSizeDelta : diff.totalSizeDelta = other.totalSizeDelta
  totalSizePercent : diff.totalSizePercent = other.totalSizePercent
  totalCountDelta : diff.totalCountDelta = other.totalCountDelta
  newTypes : TypeDelta.SameUpToTies diff.newTypes other.newTypes
  growth : TypeDelta.SameUpToTies diff.growth other.growth
  removedTypes : diff.removedTypes.Perm other.removedTypes
  suspectedLeaks : diff.suspectedLeaks.Perm other.suspectedLeaks
  leakConfidence : diff.leakConfidence = other.leakConfidence
  memoryLeakSuspected : diff.memoryLeakSuspected = other.memoryLeakSuspected

section Lists

open TypeDelta

variable (t : LeakThresholds) {a a' b b' : HeapHistogram}

theorem newTypes_sameUpToTies (ha : a.SameTotals a') (hb : b.SameTotals b') :
    SameUpToTies (diffHeap t a b).newTypes (diffHeap t a' b').newTypes := by
  rw [newTypes_diffHeap, newTypes_diffHeap]
  exact bySize_sameUpToTies (map_ofType_perm ha hb hb ha.notMem_iff)

theorem growth_sameUpToTies (ha : a.SameTotals a') (hb : b.SameTotals b') :
    SameUpToTies (diffHeap t a b).growth (diffHeap t a' b').growth := by
  rw [growth_diffHeap, growth_diffHeap]
  exact bySize_sameUpToTies
    (map_ofType_perm ha hb hb fun name => and_congr (ha.types name) (ha.differs_iff hb name))

theorem removedTypes_perm (ha : a.SameTotals a') (hb : b.SameTotals b') :
    (diffHeap t a b).removedTypes.Perm (diffHeap t a' b').removedTypes := by
  rw [removedTypes_diffHeap, removedTypes_diffHeap]
  exact map_ofType_perm ha hb ha hb.notMem_iff

theorem suspectedLeaks_perm (ha : a.SameTotals a') (hb : b.SameTotals b') :
    (diffHeap t a b).suspectedLeaks.Perm (diffHeap t a' b').suspectedLeaks := by
  rw [suspectedLeaks_diffHeap t a b t, suspectedLeaks_diffHeap t a' b' t]
  exact ((growth_sameUpToTies t ha hb).perm.append (newTypes_sameUpToTies t ha hb).perm).filterMap _

end Lists

/-- **The difference of two heaps depends on their totals only**, whatever the thresholds are:
neither the order of the rows nor the number of rows of a type reaches the verdict. -/
theorem diffHeap_matches (t : LeakThresholds) {a a' b b' : HeapHistogram} (ha : a.SameTotals a')
    (hb : b.SameTotals b') : (diffHeap t a b).Matches (diffHeap t a' b') := by
  have hdelta : (diffHeap t a b).totalSizeDelta = (diffHeap t a' b').totalSizeDelta :=
    congrArg₂ signedDelta ha.totalSize hb.totalSize
  have hpercent : (diffHeap t a b).totalSizePercent = (diffHeap t a' b').totalSizePercent :=
    congrArg₂ growthPercent hdelta ha.totalSize
  have hsuspects := suspectedLeaks_perm t ha hb
  have hconfidence : (diffHeap t a b).leakConfidence = (diffHeap t a' b').leakConfidence := by
    rw [leakConfidence_diffHeap, leakConfidence_diffHeap, hpercent, hsuspects.length_eq,
      ha.totalSize, hb.totalSize]
  exact {
    baselineTotalSize := ha.totalSize
    comparisonTotalSize := hb.totalSize
    totalSizeDelta := hdelta
    totalSizePercent := hpercent
    totalCountDelta := congrArg₂ signedDelta ha.totalCount hb.totalCount
    newTypes := newTypes_sameUpToTies t ha hb
    growth := growth_sameUpToTies t ha hb
    removedTypes := removedTypes_perm t ha hb
    suspectedLeaks := hsuspects
    leakConfidence := hconfidence
    memoryLeakSuspected := by
      rw [memoryLeakSuspected_diffHeap, memoryLeakSuspected_diffHeap, hconfidence] }

/-- One row of the first heap is split, and the rows of the second one are in another order, which
shows in the order of two new types of equal size. -/
theorem diffHeap_matches_split :
    let socket : HeapEntry := ⟨none, "Socket", 1, 8⟩
    let queue : HeapEntry := ⟨none, "Queue", 1, 16⟩
    let bytes : HeapEntry := ⟨none, "Byte[]", 2, 16⟩
    let a : HeapHistogram := ⟨[socket, ⟨none, "List", 3, 70⟩], none⟩
    let a' : HeapHistogram := ⟨[socket, ⟨none, "List", 2, 40⟩, ⟨none, "List", 1, 30⟩], none⟩
    let b : HeapHistogram := ⟨[queue, bytes, socket], some 12⟩
    let b' : HeapHistogram := ⟨[bytes, queue, socket], some 12⟩
    a.SameTotals a' ∧ b.SameTotals b' ∧
      (diffHeap {} a b).newTypes.map TypeDelta.typeName = ["Queue", "Byte[]"] ∧
      (diffHeap {} a' b').newTypes.map TypeDelta.typeName = ["Byte[]", "Queue"] ∧
      (diffHeap {} a b).Matches (diffHeap {} a' b') := by
  intro socket queue bytes a a' b b'
  have ha : a.SameTotals a' :=
    @HeapHistogram.SameTotals.of_split [⟨none, "List", 2, 40⟩, ⟨none, "List", 1, 30⟩]
      ⟨none, "List", 3, 70⟩ [socket] [] (by decide) (by decide) (by decide) (by decide) none
  have hb : b.SameTotals b' := .of_perm (List.Perm.swap bytes queue [socket]) (some 12)
  refine ⟨ha, hb, ?_, ?_, diffHeap_matches {} ha hb⟩
  · rw [newTypes_diffHeap, TypeDelta.bySize_eq_self (by decide +kernel)]
    decide +kernel
  · rw [newTypes_diffHeap, TypeDelta.bySize_eq_self (by decide +kernel)]
    decide +kernel

end Postmortem
