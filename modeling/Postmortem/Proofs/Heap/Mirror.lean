import Postmortem.Proofs.Heap.Balance

/-!
# The growth of a heap seen backward

Seen backward, what came is what went, and every difference changes its sign
(`TypeDelta.reverse`). The lists of a heap difference are made in different ways, the new
types from the totals of one heap and the removed types from those of the other. But each of
them holds the changes of certain types, once each, and which types these are is said of the
two heaps alike.

* `reverse_ofType`: the change of a type seen backward is its change between the exchanged
  heaps, as long as the range of the differences does not cut it off (`DifferencesFit`).
* `diffHeap_mirrors`: **exchanging the two heaps turns their difference round.**
-/

namespace Postmortem

/-! ## Differences -/

/-- Differences change their sign if they do not reach the limits of their range. -/
theorem signedDelta_exchange {before after : ℕ} (h : |(after : ℤ) - before| < 2 ^ 63) :
    signedDelta after before = -signedDelta before after := by
  rw [abs_lt] at h
  unfold signedDelta
  omega

namespace HeapHistogram

/-- **No difference between two heaps reaches `2 ^ 63`**: neither those of a type nor those of
the heaps as a whole. -/
structure DifferencesFit (a b : HeapHistogram) : Prop where
  objects : ∀ name ∈ a.typeNames ++ b.typeNames,
    |(b.objectsOf name : ℤ) - a.objectsOf name| < 2 ^ 63
  bytes : ∀ name ∈ a.typeNames ++ b.typeNames, |(b.bytesOf name : ℤ) - a.bytesOf name| < 2 ^ 63
  totalCount : |(b.totalCount : ℤ) - a.totalCount| < 2 ^ 63
  totalSize : |(b.totalSize : ℤ) - a.totalSize| < 2 ^ 63

theorem DifferencesFit.symm {a b : HeapHistogram} (h : a.DifferencesFit b) :
    b.DifferencesFit a where
  objects name hname := by
    rw [abs_sub_comm]
    exact h.objects name (List.perm_append_comm.mem_iff.1 hname)
  bytes name hname := by
    rw [abs_sub_comm]
    exact h.bytes name (List.perm_append_comm.mem_iff.1 hname)
  totalCount := by
    rw [abs_sub_comm]
    exact h.totalCount
  totalSize := by
    rw [abs_sub_comm]
    exact h.totalSize

/-- Types with other sums are the same in both directions. -/
theorem differs_comm {a b : HeapHistogram} {name : String} :
    a.Differs b name ↔ b.Differs a name := by
  unfold Differs
  rw [ne_comm, @ne_comm _ (a.bytesOf name)]

end HeapHistogram

/-! ## Changes of types -/

namespace TypeDelta

/-- The change seen backward. -/
def reverse (d : TypeDelta) : TypeDelta :=
  { typeName := d.typeName
    baselineCount := d.comparisonCount
    comparisonCount := d.baselineCount
    countDelta := -d.countDelta
    baselineSize := d.comparisonSize
    comparisonSize := d.baselineSize
    sizeDelta := -d.sizeDelta }

theorem reverse_reverse (d : TypeDelta) : d.reverse.reverse = d := by
  unfold reverse
  simp only [neg_neg]

theorem map_reverse_map_reverse (deltas : List TypeDelta) :
    (deltas.map reverse).map reverse = deltas := by
  rw [List.map_map]
  exact (List.map_congr_left fun d _ => reverse_reverse d).trans (List.map_id deltas)

/-- **The change of a type seen backward is its change between the exchanged heaps.** -/
theorem reverse_ofType {a b : HeapHistogram} (h : a.DifferencesFit b) {name : String}
    (hname : name ∈ a.typeNames ++ b.typeNames) : (ofType b a name).reverse = ofType a b name := by
  unfold reverse ofType
  rw [← signedDelta_exchange (h.symm.objects name (List.perm_append_comm.mem_iff.1 hname)),
    ← signedDelta_exchange (h.symm.bytes name (List.perm_append_comm.mem_iff.1 hname))]

/-- The changes of some types seen backward. -/
theorem map_reverse_map_ofType {a b : HeapHistogram} (h : a.DifferencesFit b)
    {names : List String} (hnames : ∀ name ∈ names, name ∈ a.typeNames ++ b.typeNames) :
    (names.map (ofType b a)).map reverse = names.map (ofType a b) := by
  rw [List.map_map]
  exact List.map_congr_left fun name hname => reverse_ofType h (hnames name hname)

end TypeDelta

/-! ## Exchanged heaps -/

/-- **A heap difference is another one seen backward**: what came and went is exchanged, and so
are the numbers of every type; all differences change their sign. -/
structure HeapDiff.Mirrors (diff other : HeapDiff) : Prop where
  newTypes : diff.newTypes.Perm (other.removedTypes.map TypeDelta.reverse)
  removedTypes : diff.removedTypes.Perm (other.newTypes.map TypeDelta.reverse)
  growth : diff.growth.Perm (other.growth.map TypeDelta.reverse)
  totalSizeDelta : diff.totalSizeDelta = -other.totalSizeDelta
  totalCountDelta : diff.totalCountDelta = -other.totalCountDelta

section Exchange

open TypeDelta

variable {a b : HeapHistogram} (thresholds : LeakThresholds)

/-- New types are the removed types of the exchanged heaps, sorted by their growth. -/
theorem newTypes_exchange (h : a.DifferencesFit b) :
    (diffHeap thresholds a b).newTypes =
      bySize ((diffHeap thresholds b a).removedTypes.map reverse) := by
  rw [newTypes_diffHeap, removedTypes_diffHeap, map_reverse_map_ofType h]
  intro name hname
  exact List.mem_append_right _ (HeapHistogram.mem_types.1 (List.mem_filter.1 hname).1)

/-- The types of both heaps that differ are the same types in both directions. -/
theorem differing_perm :
    (b.types.filter fun n => n ∈ a.typeNames ∧ a.Differs b n).Perm
      (a.types.filter fun n => n ∈ b.typeNames ∧ b.Differs a n) := by
  rw [List.perm_ext_iff_of_nodup (b.nodup_types.filter _) (a.nodup_types.filter _)]
  intro name
  simp only [List.mem_filter, HeapHistogram.mem_types, decide_eq_true_eq]
  rw [@HeapHistogram.differs_comm a b]
  exact and_left_comm

/-- Growth lists the same changes in both directions. -/
theorem growth_exchange (h : a.DifferencesFit b) :
    (diffHeap thresholds a b).growth.Perm ((diffHeap thresholds b a).growth.map reverse) := by
  rw [growth_diffHeap, growth_diffHeap]
  -- sorting by growth does not commute with reversal, so only the members are compared
  have hsorted := (bySize_perm ((a.types.filter fun n =>
    n ∈ b.typeNames ∧ b.Differs a n).map (ofType b a))).map reverse
  rw [map_reverse_map_ofType h fun name hname => List.mem_append_left _
    (HeapHistogram.mem_types.1 (List.mem_filter.1 hname).1)] at hsorted
  exact (bySize_perm _).trans ((differing_perm.map _).trans hsorted.symm)

end Exchange

/-- **Exchanging two heaps turns their difference round**, for all rows, repeated or empty ones
included, as long as no difference reaches `2 ^ 63`. -/
theorem diffHeap_mirrors (thresholds : LeakThresholds) {a b : HeapHistogram}
    (h : a.DifferencesFit b) :
    (diffHeap thresholds a b).Mirrors (diffHeap thresholds b a) where
  newTypes := by
    rw [newTypes_exchange thresholds h]
    exact TypeDelta.bySize_perm _
  removedTypes := by
    -- the new types of the exchanged heaps, reversed twice
    have hnew := (TypeDelta.bySize_perm
      ((diffHeap thresholds a b).removedTypes.map TypeDelta.reverse)).map TypeDelta.reverse
    rw [← newTypes_exchange thresholds h.symm, TypeDelta.map_reverse_map_reverse] at hnew
    exact hnew.symm
  growth := growth_exchange thresholds h
  totalSizeDelta := signedDelta_exchange h.symm.totalSize
  totalCountDelta := signedDelta_exchange h.symm.totalCount

/-- A type with two rows shrinks, an empty type goes and two others come; the printed total of
objects is that of the second heap only. -/
theorem diffHeap_mirrors_rows :
    let a : HeapHistogram := { entries :=
      [⟨none, "List", 2, 40⟩, ⟨none, "Timer", 0, 0⟩, ⟨none, "List", 1, 30⟩,
        ⟨none, "Socket", 1, 8⟩] }
    let b : HeapHistogram := {
      entries := [⟨none, "Socket", 1, 8⟩, ⟨none, "Queue", 1, 16⟩, ⟨none, "List", 2, 50⟩,
        ⟨none, "Byte[]", 3, 96⟩, ⟨none, "Queue", 2, 32⟩]
      totalObjects := some 12 }
    a.DifferencesFit b ∧ (diffHeap {} a b).totalCountDelta = 8 ∧
      (diffHeap {} a b).Mirrors (diffHeap {} b a) := by
  intro a b
  have h : a.DifferencesFit b :=
    ⟨by decide +kernel, by decide +kernel, by decide +kernel, by decide +kernel⟩
  exact ⟨h, by decide +kernel, diffHeap_mirrors {} h⟩

end Postmortem
