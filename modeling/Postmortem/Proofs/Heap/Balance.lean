import Postmortem.Proofs.Heap.Totals

/-!
# The account of a heap's growth

Every list of a heap difference holds the changes (`TypeDelta.ofType`) of some types, each
once: `newTypes_diffHeap`, `removedTypes_diffHeap` and `growth_diffHeap` say of which.
What the lists leave out has not changed, so their growth in bytes is that of the whole
heap.

* `diffHeap_accounts`: **every type is accounted for exactly once, with the sums of all its
  rows, and the account balances.**
-/

namespace Postmortem

/-! ## Differences -/

theorem signedDelta_eq_zero_iff {before after : ℕ} :
    signedDelta before after = 0 ↔ before = after := by
  unfold signedDelta
  omega

theorem signedDelta_of_lt {before after : ℕ} (hb : before < 2 ^ 63) (ha : after < 2 ^ 63) :
    signedDelta before after = (after : ℤ) - before := by
  unfold signedDelta
  omega

namespace TypeDelta

/-- **The change of a type**, read off the rows of two heaps. -/
def ofType (baseline comparison : HeapHistogram) (name : String) : TypeDelta :=
  { typeName := name
    baselineCount := baseline.objectsOf name
    comparisonCount := comparison.objectsOf name
    countDelta := signedDelta (baseline.objectsOf name) (comparison.objectsOf name)
    baselineSize := baseline.bytesOf name
    comparisonSize := comparison.bytesOf name
    sizeDelta := signedDelta (baseline.bytesOf name) (comparison.bytesOf name) }

variable {baseline comparison : HeapHistogram} {name : String}

theorem between_totalOf : between name (baseline.totalOf name) (comparison.totalOf name) =
    ofType baseline comparison name := rfl

theorem between_nothing_left (h : name ∉ baseline.typeNames) :
    between name ⟨name, 0, 0⟩ (comparison.totalOf name) = ofType baseline comparison name := by
  rw [← between_totalOf]
  unfold HeapHistogram.totalOf
  rw [HeapHistogram.objectsOf_of_notMem h, HeapHistogram.bytesOf_of_notMem h]

theorem between_nothing_right (h : name ∉ comparison.typeNames) :
    between name (baseline.totalOf name) ⟨name, 0, 0⟩ = ofType baseline comparison name := by
  rw [← between_totalOf]
  unfold HeapHistogram.totalOf
  rw [HeapHistogram.objectsOf_of_notMem h, HeapHistogram.bytesOf_of_notMem h]

end TypeDelta

namespace HeapHistogram

/-- Whether a type has other sums in the second heap. -/
def Differs (baseline comparison : HeapHistogram) (name : String) : Prop :=
  baseline.objectsOf name ≠ comparison.objectsOf name ∨
    baseline.bytesOf name ≠ comparison.bytesOf name

instance (baseline comparison : HeapHistogram) (name : String) :
    Decidable (Differs baseline comparison name) :=
  inferInstanceAs (Decidable (_ ∨ _))

end HeapHistogram

namespace TypeDelta

variable {baseline comparison : HeapHistogram} {name : String}

theorem isChange_ofType_iff :
    (ofType baseline comparison name).isChange = true ↔ baseline.Differs comparison name := by
  unfold isChange ofType HeapHistogram.Differs
  simp only [Bool.or_eq_true, bne_iff_ne, ne_eq, signedDelta_eq_zero_iff]

/-- Sorting by size keeps the changes. -/
theorem bySize_perm (deltas : List TypeDelta) : (bySize deltas).Perm deltas :=
  List.mergeSort_perm _ _

/-- Sorting by size puts the largest growth first. -/
theorem bySize_pairwise (deltas : List TypeDelta) :
    (bySize deltas).Pairwise fun a b => b.sizeDelta ≤ a.sizeDelta := by
  have h := @List.pairwise_mergeSort TypeDelta (fun a b => b.sizeDelta ≤ a.sizeDelta)
    (fun a b c => by simp only [decide_eq_true_eq]; omega)
    (fun a b => by simp only [Bool.or_eq_true, decide_eq_true_eq]; omega) deltas
  exact h.imp fun hab => by simpa using hab

end TypeDelta

/-! ## The three lists -/

section Lists

open TypeDelta

variable (thresholds : LeakThresholds) (baseline comparison : HeapHistogram)

/-- New types are those that occur in the second heap only. -/
theorem newTypes_diffHeap : (diffHeap thresholds baseline comparison).newTypes =
    bySize ((comparison.types.filter (· ∉ baseline.typeNames)).map
      (ofType baseline comparison)) := by
  unfold diffHeap
  simp only [HeapHistogram.filter_totals, List.map_map]
  congr 1
  refine List.map_congr_left fun n hn => ?_
  have hout : n ∉ baseline.typeNames := of_decide_eq_true (List.mem_filter.1 hn).2
  exact between_nothing_left hout

/-- Removed types are those that occur in the first heap only. -/
theorem removedTypes_diffHeap : (diffHeap thresholds baseline comparison).removedTypes =
    (baseline.types.filter (· ∉ comparison.typeNames)).map (ofType baseline comparison) := by
  unfold diffHeap
  simp only [HeapHistogram.filter_totals, List.map_map]
  refine List.map_congr_left fun n hn => ?_
  have hout : n ∉ comparison.typeNames := of_decide_eq_true (List.mem_filter.1 hn).2
  exact between_nothing_right hout

/-- The changes of the types of both heaps, changed or not. -/
theorem filterMap_shared (names : List String) :
    ((names.map comparison.totalOf).filterMap fun t =>
      (TypeTotal.find? baseline.totals t.typeName).map fun old => between t.typeName old t) =
      (names.filter (· ∈ baseline.typeNames)).map (ofType baseline comparison) := by
  induction names with
  | nil => rfl
  | cons n rest ih =>
    have hfind := baseline.find?_totals n
    rw [List.map_cons]
    by_cases h : n ∈ baseline.typeNames
    · rw [if_pos h] at hfind
      rw [List.filterMap_cons_some (b := ofType baseline comparison n), ih,
        List.filter_cons_of_pos (by simpa using h), List.map_cons]
      exact congrArg (Option.map _) hfind
    · rw [if_neg h] at hfind
      rw [List.filterMap_cons_none, ih, List.filter_cons_of_neg (by simpa using h)]
      exact congrArg (Option.map _) hfind

/-- Growth lists the types that occur in both heaps with different sums. -/
theorem growth_diffHeap : (diffHeap thresholds baseline comparison).growth =
    bySize ((comparison.types.filter fun n =>
      n ∈ baseline.typeNames ∧ baseline.Differs comparison n).map
        (ofType baseline comparison)) := by
  unfold diffHeap
  simp only [comparison.totals_eq_map_types, filterMap_shared, List.filter_map, List.filter_filter]
  congr 2
  refine List.filter_congr fun n _ => ?_
  rw [Bool.eq_iff_iff]
  simp only [Function.comp_apply, Bool.and_eq_true, decide_eq_true_eq, isChange_ofType_iff,
    and_comm]

end Lists

/-! ## The account -/

/-- All changes that a heap difference lists. -/
def HeapDiff.changes (diff : HeapDiff) : List TypeDelta :=
  diff.newTypes ++ diff.removedTypes ++ diff.growth

/-- **A true account of the types of two heaps.** Each type is in the list where it belongs
and in no other, with the sums of its rows; the lists are in order and add up to the growth
of the heap. -/
structure HeapDiff.Accounts (baseline comparison : HeapHistogram) (diff : HeapDiff) : Prop where
  mem_newTypes : ∀ name, name ∈ diff.newTypes.map TypeDelta.typeName ↔
    name ∉ baseline.typeNames ∧ name ∈ comparison.typeNames
  mem_removedTypes : ∀ name, name ∈ diff.removedTypes.map TypeDelta.typeName ↔
    name ∈ baseline.typeNames ∧ name ∉ comparison.typeNames
  mem_growth : ∀ name, name ∈ diff.growth.map TypeDelta.typeName ↔
    name ∈ baseline.typeNames ∧ name ∈ comparison.typeNames ∧ baseline.Differs comparison name
  sums : ∀ d ∈ diff.changes, d = .ofType baseline comparison d.typeName
  nodup : (diff.changes.map TypeDelta.typeName).Nodup
  newTypes_sorted : diff.newTypes.Pairwise fun a b => b.sizeDelta ≤ a.sizeDelta
  growth_sorted : diff.growth.Pairwise fun a b => b.sizeDelta ≤ a.sizeDelta
  balance : (diff.changes.map TypeDelta.sizeDelta).sum = diff.totalSizeDelta

section Account

open TypeDelta

variable {thresholds : LeakThresholds} {baseline comparison : HeapHistogram}

theorem map_typeName_ofType (names : List String) :
    (names.map (ofType baseline comparison)).map TypeDelta.typeName = names := by
  rw [List.map_map]
  exact List.map_id names

/-- The names of the listed changes, up to their order. -/
theorem typeNames_perm (names : List String) :
    ((bySize (names.map (ofType baseline comparison))).map TypeDelta.typeName).Perm names := by
  have h := (bySize_perm (names.map (ofType baseline comparison))).map TypeDelta.typeName
  rwa [map_typeName_ofType] at h

theorem mem_newTypes_iff (name : String) :
    name ∈ (diffHeap thresholds baseline comparison).newTypes.map TypeDelta.typeName ↔
      name ∉ baseline.typeNames ∧ name ∈ comparison.typeNames := by
  rw [newTypes_diffHeap, (typeNames_perm _).mem_iff, List.mem_filter, HeapHistogram.mem_types,
    decide_eq_true_eq, and_comm]

theorem mem_removedTypes_iff (name : String) :
    name ∈ (diffHeap thresholds baseline comparison).removedTypes.map TypeDelta.typeName ↔
      name ∈ baseline.typeNames ∧ name ∉ comparison.typeNames := by
  rw [removedTypes_diffHeap, map_typeName_ofType, List.mem_filter, HeapHistogram.mem_types,
    decide_eq_true_eq]

theorem mem_growth_iff (name : String) :
    name ∈ (diffHeap thresholds baseline comparison).growth.map TypeDelta.typeName ↔
      name ∈ baseline.typeNames ∧ name ∈ comparison.typeNames ∧
        baseline.Differs comparison name := by
  rw [growth_diffHeap, (typeNames_perm _).mem_iff, List.mem_filter, HeapHistogram.mem_types,
    decide_eq_true_eq]
  tauto

theorem eq_ofType_of_mem_changes {d : TypeDelta}
    (hd : d ∈ (diffHeap thresholds baseline comparison).changes) :
    d = ofType baseline comparison d.typeName := by
  have key : ∀ names : List String, d ∈ names.map (ofType baseline comparison) →
      d = ofType baseline comparison d.typeName := by
    intro names hm
    obtain ⟨n, -, rfl⟩ := List.mem_map.1 hm
    rfl
  unfold HeapDiff.changes at hd
  rw [newTypes_diffHeap, removedTypes_diffHeap, growth_diffHeap, List.mem_append, List.mem_append,
    (bySize_perm _).mem_iff, (bySize_perm _).mem_iff] at hd
  rcases hd with (hd | hd) | hd
  · exact key _ hd
  · exact key _ hd
  · exact key _ hd

theorem nodup_changes :
    ((diffHeap thresholds baseline comparison).changes.map TypeDelta.typeName).Nodup := by
  have hnew :
      ((diffHeap thresholds baseline comparison).newTypes.map TypeDelta.typeName).Nodup := by
    rw [newTypes_diffHeap, (typeNames_perm _).nodup_iff]
    exact comparison.nodup_types.filter _
  have hremoved :
      ((diffHeap thresholds baseline comparison).removedTypes.map TypeDelta.typeName).Nodup := by
    rw [removedTypes_diffHeap, map_typeName_ofType]
    exact baseline.nodup_types.filter _
  have hgrowth :
      ((diffHeap thresholds baseline comparison).growth.map TypeDelta.typeName).Nodup := by
    rw [growth_diffHeap, (typeNames_perm _).nodup_iff]
    exact comparison.nodup_types.filter _
  unfold HeapDiff.changes
  rw [List.map_append, List.map_append]
  refine List.Nodup.append (List.Nodup.append hnew hremoved ?_) hgrowth ?_
  · intro n h1 h2
    exact (mem_newTypes_iff n).1 h1 |>.1 ((mem_removedTypes_iff n).1 h2).1
  · intro n h1 h2
    have hboth := (mem_growth_iff n).1 h2
    rcases List.mem_append.1 h1 with h1 | h1
    · exact ((mem_newTypes_iff n).1 h1).1 hboth.1
    · exact ((mem_removedTypes_iff n).1 h1).2 hboth.2.1

/-- Only types that occur are listed. -/
theorem typeName_of_mem_changes {name : String}
    (hn : name ∈ (diffHeap thresholds baseline comparison).changes.map TypeDelta.typeName) :
    name ∈ baseline.typeNames ∨ name ∈ comparison.typeNames := by
  unfold HeapDiff.changes at hn
  rw [List.map_append, List.map_append, List.mem_append, List.mem_append, mem_newTypes_iff,
    mem_removedTypes_iff, mem_growth_iff] at hn
  tauto

/-- A type that is in no list has as many bytes as before. -/
theorem bytesOf_eq_of_notMem_changes {name : String}
    (hn : name ∉ (diffHeap thresholds baseline comparison).changes.map TypeDelta.typeName) :
    baseline.bytesOf name = comparison.bytesOf name := by
  unfold HeapDiff.changes at hn
  rw [List.map_append, List.map_append, List.mem_append, List.mem_append, mem_newTypes_iff,
    mem_removedTypes_iff, mem_growth_iff] at hn
  unfold HeapHistogram.Differs at hn
  by_cases hb : name ∈ baseline.typeNames
  · by_cases hc : name ∈ comparison.typeNames
    · tauto
    · tauto
  · by_cases hc : name ∈ comparison.typeNames
    · tauto
    · rw [HeapHistogram.bytesOf_of_notMem hb, HeapHistogram.bytesOf_of_notMem hc]

/-- **The account balances**: the listed growth is the growth of the heap. -/
theorem sum_sizeDelta_changes (hb : baseline.totalSize < 2 ^ 63)
    (hc : comparison.totalSize < 2 ^ 63) :
    ((diffHeap thresholds baseline comparison).changes.map TypeDelta.sizeDelta).sum =
      (diffHeap thresholds baseline comparison).totalSizeDelta := by
  set diff := diffHeap thresholds baseline comparison
  let growthOf : String → ℤ := fun n => (comparison.bytesOf n : ℤ) - baseline.bytesOf n
  -- both sides are sums over the types of either heap
  let names : Finset String := (baseline.typeNames ++ comparison.typeNames).toFinset
  have hdelta : ∀ d ∈ diff.changes, d.sizeDelta = growthOf d.typeName := by
    intro d hd
    have hbn := baseline.bytesOf_le_totalSize d.typeName
    have hcn := comparison.bytesOf_le_totalSize d.typeName
    rw [eq_ofType_of_mem_changes hd]
    exact signedDelta_of_lt (by omega) (by omega)
  calc (diff.changes.map TypeDelta.sizeDelta).sum
      = ((diff.changes.map TypeDelta.typeName).map growthOf).sum := by
        rw [List.map_map, List.map_congr_left hdelta]; rfl
    _ = ∑ n ∈ (diff.changes.map TypeDelta.typeName).toFinset, growthOf n :=
        (List.sum_toFinset growthOf nodup_changes).symm
    _ = ∑ n ∈ names, growthOf n := by
        refine Finset.sum_subset ?_ ?_
        · intro n hn
          simp only [names, List.mem_toFinset, List.mem_append]
          exact typeName_of_mem_changes (List.mem_toFinset.1 hn)
        · intro n _ hn
          have := bytesOf_eq_of_notMem_changes (fun h => hn (List.mem_toFinset.2 h))
          simp only [growthOf, this, sub_self]
    _ = (comparison.totalSize : ℤ) - baseline.totalSize := by
        rw [Finset.sum_sub_distrib, ← Nat.cast_sum, ← Nat.cast_sum,
          comparison.sum_bytesOf fun n hn => by simp [names, hn],
          baseline.sum_bytesOf fun n hn => by simp [names, hn]]
    _ = diff.totalSizeDelta := (signedDelta_of_lt hb hc).symm

end Account

/-- **The difference of two heaps is a true account of their types**, for all rows, repeated
or empty ones included, as long as both totals are below `2 ^ 63` bytes. -/
theorem diffHeap_accounts (thresholds : LeakThresholds) {baseline comparison : HeapHistogram}
    (hb : baseline.totalSize < 2 ^ 63) (hc : comparison.totalSize < 2 ^ 63) :
    (diffHeap thresholds baseline comparison).Accounts baseline comparison where
  mem_newTypes := mem_newTypes_iff
  mem_removedTypes := mem_removedTypes_iff
  mem_growth := mem_growth_iff
  sums _ hd := eq_ofType_of_mem_changes hd
  nodup := nodup_changes
  newTypes_sorted := by rw [newTypes_diffHeap]; exact TypeDelta.bySize_pairwise _
  growth_sorted := by rw [growth_diffHeap]; exact TypeDelta.bySize_pairwise _
  balance := sum_sizeDelta_changes hb hc

/-- A type with two rows shrinks, a type with an empty row goes and another one comes. -/
theorem diffHeap_accounts_rows :
    let before : HeapHistogram := { entries :=
      [⟨none, "List", 2, 40⟩, ⟨none, "Timer", 0, 0⟩, ⟨none, "List", 1, 30⟩,
        ⟨none, "Socket", 1, 8⟩] }
    let after : HeapHistogram := { entries :=
      [⟨none, "Socket", 1, 8⟩, ⟨none, "Queue", 1, 16⟩, ⟨none, "List", 2, 50⟩] }
    before.totalSize < 2 ^ 63 ∧ after.totalSize < 2 ^ 63 ∧
      (diffHeap {} before after).changes.map (fun d => (d.typeName, d.sizeDelta)) =
        [("Queue", 16), ("Timer", 0), ("List", -20)] ∧
      (diffHeap {} before after).Accounts before after :=
  ⟨by decide, by decide, by decide +kernel, diffHeap_accounts {} (by decide) (by decide)⟩

end Postmortem
