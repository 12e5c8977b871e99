import Mathlib.Algebra.BigOperators.Group.Finset.Basic
import Mathlib.Algebra.BigOperators.Group.Finset.Piecewise
import Mathlib.Tactic
import Postmortem.Proofs.Snapshot.Keys
import Postmortem.Snapshot.HeapDiff

/-!
# Totals of types

The rows of a heap are added up one after the other. `find?_totals` and `mem_totals` say
what comes out: each type that occurs has one total, the sum over all of its rows.

* `objectsOf`, `bytesOf`: the sums, read off the rows.
* `nodup_totals`: no type has two totals.
* `sum_rows_of_types`: the sums of all types are the sums of all rows.
-/

namespace Postmortem

namespace HeapHistogram

variable (heap : HeapHistogram)

/-- The types of the rows, in their order and with repetitions. -/
def typeNames : List String := heap.entries.map HeapEntry.typeName

/-- The objects in all rows of a type. -/
def objectsOf (typeName : String) : ℕ :=
  ((heap.entries.filter (·.typeName = typeName)).map HeapEntry.count).sum

/-- The bytes in all rows of a type. -/
def bytesOf (typeName : String) : ℕ :=
  ((heap.entries.filter (·.typeName = typeName)).map HeapEntry.totalSize).sum

/-- The total of a type, read off the rows. -/
def totalOf (typeName : String) : TypeTotal :=
  ⟨typeName, heap.objectsOf typeName, heap.bytesOf typeName⟩

variable {heap} {typeName : String}

theorem filter_eq_nil_of_notMem (h : typeName ∉ heap.typeNames) :
    heap.entries.filter (·.typeName = typeName) = [] := by
  rw [List.filter_eq_nil_iff]
  intro e he
  simp only [decide_eq_true_eq]
  rintro rfl
  exact h (List.mem_map_of_mem he)

theorem objectsOf_of_notMem (h : typeName ∉ heap.typeNames) : heap.objectsOf typeName = 0 := by
  unfold objectsOf
  rw [filter_eq_nil_of_notMem h]
  rfl

theorem bytesOf_of_notMem (h : typeName ∉ heap.typeNames) : heap.bytesOf typeName = 0 := by
  unfold bytesOf
  rw [filter_eq_nil_of_notMem h]
  rfl

/-- **The sums of the types are the sums of all rows**, over any names that include those of the
rows. -/
theorem sum_rows_of_types (heap : HeapHistogram) (measure : HeapEntry → ℕ) {names : Finset String}
    (h : ∀ n ∈ heap.typeNames, n ∈ names) :
    ∑ n ∈ names, ((heap.entries.filter (·.typeName = n)).map measure).sum =
      (heap.entries.map measure).sum := by
  obtain ⟨entries, totalObjects⟩ := heap
  unfold typeNames at h
  simp only at *
  induction entries with
  | nil => simp
  | cons e rest ih =>
    have hrow : ∀ n, (((e :: rest).filter (·.typeName = n)).map measure).sum =
        (if e.typeName = n then measure e else 0) +
          ((rest.filter (·.typeName = n)).map measure).sum := by
      intro n
      by_cases hn : e.typeName = n <;> simp [hn]
    have hmem : e.typeName ∈ names := h _ List.mem_cons_self
    simp only [hrow]
    rw [Finset.sum_add_distrib, Finset.sum_ite_eq, if_pos hmem,
      ih fun n hn => h n (List.mem_cons_of_mem _ hn), List.map_cons, List.sum_cons]

/-- The bytes of the types are the bytes of the heap. -/
theorem sum_bytesOf (heap : HeapHistogram) {names : Finset String}
    (h : ∀ n ∈ heap.typeNames, n ∈ names) :
    ∑ n ∈ names, heap.bytesOf n = heap.totalSize :=
  heap.sum_rows_of_types HeapEntry.totalSize h

/-- The objects of the types are the objects of all rows. -/
theorem sum_objectsOf (heap : HeapHistogram) {names : Finset String}
    (h : ∀ n ∈ heap.typeNames, n ∈ names) :
    ∑ n ∈ names, heap.objectsOf n = (heap.entries.map HeapEntry.count).sum :=
  heap.sum_rows_of_types HeapEntry.count h

/-- No type has more bytes than the heap. -/
theorem bytesOf_le_totalSize (heap : HeapHistogram) (typeName : String) :
    heap.bytesOf typeName ≤ heap.totalSize := by
  unfold bytesOf totalSize
  exact (List.filter_sublist.map _).sum_le_sum fun _ _ => Nat.zero_le _

end HeapHistogram

/-! ## Adding rows up -/

namespace TypeTotal

variable {totals : List TypeTotal} {name : String}

theorem find?_cons (t : TypeTotal) (totals : List TypeTotal) (name : String) :
    find? (t :: totals) name = if t.typeName = name then some t else find? totals name := by
  unfold find?
  by_cases h : t.typeName = name
  · rw [List.find?_cons_of_pos (by simpa using h), if_pos h]
  · rw [List.find?_cons_of_neg (by simpa using h), if_neg h]

/-- **A row adds to the total of its type and to no other.** -/
theorem find?_addRow (entry : HeapEntry) (totals : List TypeTotal) (name : String) :
    find? (addRow entry totals) name =
      if entry.typeName = name then
        some ⟨name, (find? totals name).elim 0 count + entry.count,
          (find? totals name).elim 0 size + entry.totalSize⟩
      else find? totals name := by
  induction totals with
  | nil =>
    unfold addRow
    rw [find?_cons]
    by_cases h : entry.typeName = name <;> simp [h, find?]
  | cons t rest ih =>
    unfold addRow
    by_cases ht : t.typeName = entry.typeName
    · rw [if_pos ht, find?_cons, find?_cons]
      by_cases h : entry.typeName = name <;> simp [ht, h]
    · rw [if_neg ht, find?_cons, find?_cons, ih]
      by_cases h : entry.typeName = name
      · have hne : t.typeName ≠ name := fun he => ht (he.trans h.symm)
        simp [h, hne]
      · simp [h]

theorem map_typeName_addRow (entry : HeapEntry) (totals : List TypeTotal) :
    (addRow entry totals).map typeName =
      if entry.typeName ∈ totals.map typeName then totals.map typeName
      else totals.map typeName ++ [entry.typeName] := by
  induction totals with
  | nil => rfl
  | cons t rest ih =>
    unfold addRow
    by_cases ht : t.typeName = entry.typeName
    · simp [ht]
    · have hne : entry.typeName ≠ t.typeName := fun he => ht he.symm
      rw [if_neg ht, List.map_cons, ih]
      simp only [List.map_cons, List.mem_cons, hne, false_or]
      split
      · rfl
      · rw [List.cons_append]

theorem nodup_addRow (entry : HeapEntry) (h : (totals.map typeName).Nodup) :
    ((addRow entry totals).map typeName).Nodup := by
  rw [map_typeName_addRow]
  split
  · exact h
  · rename_i hnew
    exact List.nodup_append.2 ⟨h, List.nodup_singleton _, fun a ha b hb hab => by
      rw [List.mem_singleton] at hb
      exact hnew (hb ▸ hab ▸ ha)⟩

theorem find?_of_mem (h : (totals.map typeName).Nodup) {t : TypeTotal} (ht : t ∈ totals) :
    find? totals t.typeName = some t :=
  find?_key_of_mem typeName h ht

end TypeTotal

namespace HeapHistogram

variable {heap : HeapHistogram}

/-- No type has two totals. -/
theorem nodup_totals (heap : HeapHistogram) : (heap.totals.map TypeTotal.typeName).Nodup := by
  unfold totals
  induction heap.entries using List.reverseRecOn with
  | nil => exact List.nodup_nil
  | append_singleton rows e ih =>
    rw [List.foldl_append]
    exact TypeTotal.nodup_addRow e ih

/-- **The total of a type is the sum over its rows**, and only types with rows have one. -/
theorem find?_totals (heap : HeapHistogram) (name : String) :
    TypeTotal.find? heap.totals name =
      if name ∈ heap.typeNames then some (heap.totalOf name) else none := by
  obtain ⟨entries, totalObjects⟩ := heap
  unfold totals totalOf objectsOf bytesOf typeNames
  simp only
  induction entries using List.reverseRecOn with
  | nil => rfl
  | append_singleton rows e ih =>
    -- the last row is the last one added
    rw [List.foldl_append, List.foldl_cons, List.foldl_nil, TypeTotal.find?_addRow, ih]
    by_cases he : e.typeName = name
    · by_cases hm : name ∈ rows.map HeapEntry.typeName
      · simp [he, hm]
      · have hnil : rows.filter (·.typeName = name) = [] :=
          @filter_eq_nil_of_notMem ⟨rows, none⟩ name hm
        simp [he, hm, hnil]
    · have hne : name ≠ e.typeName := fun h => he h.symm
      simp [he, hne]

theorem mem_totals {t : TypeTotal} :
    t ∈ heap.totals ↔ t.typeName ∈ heap.typeNames ∧ t = heap.totalOf t.typeName := by
  constructor
  · intro h
    have hf := TypeTotal.find?_of_mem heap.nodup_totals h
    rw [find?_totals] at hf
    split at hf
    · exact ⟨‹_›, (Option.some.inj hf).symm⟩
    · cases hf
  · rintro ⟨hm, ht⟩
    have hf := find?_totals heap t.typeName
    rw [if_pos hm, ← ht] at hf
    exact List.mem_of_find?_eq_some hf

/-- The types that occur, each of them once. -/
def types (heap : HeapHistogram) : List String := heap.totals.map TypeTotal.typeName

theorem nodup_types (heap : HeapHistogram) : heap.types.Nodup := heap.nodup_totals

theorem mem_types {name : String} : name ∈ heap.types ↔ name ∈ heap.typeNames := by
  unfold types
  rw [List.mem_map]
  constructor
  · rintro ⟨t, ht, rfl⟩
    exact (mem_totals.1 ht).1
  · intro h
    exact ⟨heap.totalOf name, mem_totals.2 ⟨h, rfl⟩, rfl⟩

theorem totals_eq_map_types (heap : HeapHistogram) : heap.totals = heap.types.map heap.totalOf := by
  unfold types
  rw [List.map_map]
  exact (List.map_id' heap.totals).symm.trans
    (List.map_congr_left fun t ht => (mem_totals.1 ht).2)

/-- The totals whose types do not occur in another heap. -/
theorem filter_totals (heap other : HeapHistogram) :
    (heap.totals.filter fun t => (TypeTotal.find? other.totals t.typeName).isNone) =
      (heap.types.filter (· ∉ other.typeNames)).map heap.totalOf := by
  rw [heap.totals_eq_map_types, List.filter_map]
  congr 1
  refine List.filter_congr fun n _ => ?_
  simp only [Function.comp_apply]
  rw [find?_totals]
  by_cases h : n ∈ other.typeNames <;> simp [h, totalOf]

end HeapHistogram

end Postmortem
