import Mathlib.Tactic

/-!
# Stable sorting

A list is sorted by keys and keeps members of equal keys in their order. These two properties
determine the sorted list, so anything that has them is the library's merge sort.

* `filter_byKey`: sorting keeps the members of each key as they stand.
* `eq_of_sameMembers`: **sorted lists with the same members at every key are equal.**
* `byKey_eq_flatMap`: sorting by few keys is a filter for each of them.
-/

namespace Postmortem

variable {α : Type} (key : α → ℕ)

/-- The members in the order of their keys; members of one key stay in their order. -/
def byKey (l : List α) : List α := l.mergeSort fun a b => key a ≤ key b

variable {key}

theorem byKey_perm (l : List α) : (byKey key l).Perm l := List.mergeSort_perm _ _

theorem byKey_pairwise (l : List α) : (byKey key l).Pairwise fun a b => key a ≤ key b := by
  have hsorted := @List.pairwise_mergeSort α (fun a b => decide (key a ≤ key b))
    (fun a b c => by simp only [decide_eq_true_eq]; omega)
    (fun a b => by simp only [Bool.or_eq_true, decide_eq_true_eq]; omega) l
  exact hsorted.imp of_decide_eq_true

theorem pairwise_filter_key (l : List α) (k : ℕ) :
    (l.filter fun a => key a = k).Pairwise fun a b => key a ≤ key b := by
  refine List.pairwise_of_forall_mem_list fun a ha b hb => ?_
  have hak := of_decide_eq_true (List.mem_filter.1 ha).2
  have hbk := of_decide_eq_true (List.mem_filter.1 hb).2
  omega

/-- **Sorting keeps the members of each key as they stand.** -/
theorem filter_byKey (l : List α) (k : ℕ) :
    ((byKey key l).filter fun a => key a = k) = l.filter fun a => key a = k := by
  have hequal : (l.filter fun a => key a = k).Pairwise fun a b => decide (key a ≤ key b) = true :=
    (pairwise_filter_key l k).imp decide_eq_true
  -- members of one key are sorted as they stand, and sorting keeps what is sorted in its order
  have hkept : (l.filter fun a => key a = k).Sublist (byKey key l) :=
    List.sublist_mergeSort (fun a b c => by simp only [decide_eq_true_eq]; omega)
      (fun a b => by simp only [Bool.or_eq_true, decide_eq_true_eq]; omega) hequal
      List.filter_sublist
  have hfiltered := hkept.filter fun a => key a = k
  rw [List.filter_filter] at hfiltered
  simp only [Bool.and_self] at hfiltered
  exact (hfiltered.eq_of_length ((byKey_perm l).filter _).length_eq.symm).symm

/-- **Sorted lists with the same members at every key are equal.** -/
theorem eq_of_sameMembers {l : List α} : ∀ {others : List α},
    (l.Pairwise fun a b => key a ≤ key b) → (others.Pairwise fun a b => key a ≤ key b) →
    (∀ k, (l.filter fun a => key a = k) = others.filter fun a => key a = k) → l = others := by
  induction l with
  | nil =>
    intro others _ _ h
    cases others with
    | nil => rfl
    | cons b others => simpa using h (key b)
  | cons a l ih =>
    intro others hl hothers h
    cases others with
    | nil => simpa using h (key a)
    | cons b others =>
      have hmem : a ∈ b :: others :=
        List.mem_of_mem_filter (h (key a) ▸ List.mem_filter.2 ⟨List.mem_cons_self, by simp⟩)
      have hmem' : b ∈ a :: l :=
        List.mem_of_mem_filter ((h (key b)).symm ▸ List.mem_filter.2 ⟨List.mem_cons_self, by simp⟩)
      have hba : key b ≤ key a := by
        rcases List.mem_cons.1 hmem with rfl | hmem
        · exact le_rfl
        · exact (List.pairwise_cons.1 hothers).1 a hmem
      have hab : key a ≤ key b := by
        rcases List.mem_cons.1 hmem' with rfl | hmem'
        · exact le_rfl
        · exact (List.pairwise_cons.1 hl).1 b hmem'
      -- the two lists start with one key, so with the first member of that key
      have hfirst := h (key a)
      rw [List.filter_cons_of_pos (by simp), List.filter_cons_of_pos (by simp; omega)] at hfirst
      obtain ⟨rfl, -⟩ := List.cons.inj hfirst
      rw [ih (List.pairwise_cons.1 hl).2 (List.pairwise_cons.1 hothers).2 fun k => ?_]
      have hk := h k
      by_cases hak : key a = k
      · rw [List.filter_cons_of_pos (by simpa using hak),
          List.filter_cons_of_pos (by simpa using hak)] at hk
        exact (List.cons.inj hk).2
      · rwa [List.filter_cons_of_neg (by simpa using hak),
          List.filter_cons_of_neg (by simpa using hak)] at hk

/-- **What is sorted and keeps the members of each key is the sorted list.** -/
theorem eq_byKey {l sorted : List α} (hsorted : sorted.Pairwise fun a b => key a ≤ key b)
    (hkept : ∀ k, (sorted.filter fun a => key a = k) = l.filter fun a => key a = k) :
    sorted = byKey key l :=
  eq_of_sameMembers hsorted (byKey_pairwise l) fun k => (hkept k).trans (filter_byKey l k).symm

/-- Of the groups of members by key, one has the members of a given key. -/
theorem flatMap_filter_key (l : List α) (k n : ℕ) :
    ((List.range n).flatMap fun j => (l.filter fun a => key a = j).filter fun a => key a = k) =
      if k < n then l.filter fun a => key a = k else [] := by
  induction n with
  | zero => rfl
  | succ n ih =>
    have hother (h : k ≠ n) : ((l.filter fun a => key a = n).filter fun a => key a = k) = [] := by
      refine List.filter_eq_nil_iff.2 fun a ha => ?_
      have hkey := of_decide_eq_true (List.mem_filter.1 ha).2
      simp only [decide_eq_true_eq]
      omega
    rw [List.range_succ, List.flatMap_append, ih, List.flatMap_cons, List.flatMap_nil,
      List.append_nil]
    rcases lt_trichotomy k n with h | rfl | h
    · rw [hother h.ne, if_pos h, if_pos (by omega), List.append_nil]
    · rw [if_neg (by omega), if_pos (by omega), List.nil_append, List.filter_filter]
      simp only [Bool.and_self]
    · rw [hother h.ne', if_neg (by omega), if_neg (by omega), List.append_nil]

/-- **Sorting by few keys** puts the members of each key behind those of the smaller keys. -/
theorem byKey_eq_flatMap {l : List α} {n : ℕ} (hkeys : ∀ a ∈ l, key a < n) :
    byKey key l = (List.range n).flatMap fun k => l.filter fun a => key a = k := by
  refine (eq_byKey ?_ fun k => ?_).symm
  · refine List.pairwise_flatMap.2 ⟨fun k _ => pairwise_filter_key l k, ?_⟩
    refine List.pairwise_lt_range.imp fun {j k} hjk a ha b hb => ?_
    have haj := of_decide_eq_true (List.mem_filter.1 ha).2
    have hbk := of_decide_eq_true (List.mem_filter.1 hb).2
    omega
  · rw [List.filter_flatMap, flatMap_filter_key]
    split
    · rfl
    · rename_i hk
      refine (List.filter_eq_nil_iff.2 fun a ha => ?_).symm
      have hlt := hkeys a ha
      simp only [decide_eq_true_eq]
      omega

end Postmortem
