import Postmortem.Deadlock
import Postmortem.Proofs.Thread.Sameness

/-!
# Ids that stand for others

The ids of holders and of waiting threads are listed one after another, and an id is passed over if
one that can be the same thread's is listed. That two ids can be one thread's is no equivalence: it
need not carry over from one id to the next, and of the empty id not even that it is the same as
itself. So which ids are listed depends on their order, and an id without text is listed each time.

Whatever the ids are, a list represents them (`Represents`): listed ids are apart, and an id is
listed at its own place or is the same as one that is listed at an earlier place.

* `Represents.add`: one more id keeps a list that way, listed or not.
* `exists_represents`: **a list without repetitions represents its ids.**
-/

namespace Postmortem

/-- **The listed ids represent all ids.** Each listed id is taken with its place among the ids. -/
structure Represents (ids : List ThreadId) (listed : List (ThreadId × ℕ)) : Prop where
  sublist : listed.Sublist ids.zipIdx
  apart : listed.Pairwise fun p q => ¬ p.1.isSame q.1 = true ∧ ¬ q.1.isSame p.1 = true
  covers : ∀ p ∈ ids.zipIdx, p ∈ listed ∨ ∃ q ∈ listed, q.2 < p.2 ∧ q.1.isSame p.1 = true

variable {ids : List ThreadId} {listed : List (ThreadId × ℕ)}

theorem zipIdx_concat (ids : List ThreadId) (id : ThreadId) :
    (ids ++ [id]).zipIdx = ids.zipIdx ++ [(id, ids.length)] := by
  rw [List.zipIdx_append, Nat.zero_add]
  rfl

namespace Represents

theorem nil : Represents [] [] :=
  ⟨List.Sublist.refl [], List.Pairwise.nil, fun _ h => absurd h List.not_mem_nil⟩

/-- Listed places are in front of the place of the next id. -/
theorem lt_length (h : Represents ids listed) {q : ThreadId × ℕ} (hq : q ∈ listed) :
    q.2 < ids.length := List.snd_lt_of_mem_zipIdx (h.sublist.subset hq)

/-- An id that is the same as a listed one is represented. -/
theorem pass (h : Represents ids listed) {id : ThreadId}
    (hsame : ∃ q ∈ listed, q.1.isSame id = true) : Represents (ids ++ [id]) listed := by
  refine ⟨?_, h.apart, ?_⟩
  · rw [zipIdx_concat]
    exact h.sublist.trans (List.sublist_append_left _ _)
  · rw [zipIdx_concat]
    refine List.forall_mem_append.2 ⟨h.covers, List.forall_mem_singleton.2 (.inr ?_)⟩
    obtain ⟨q, hq, hsame⟩ := hsame
    exact ⟨q, hq, h.lt_length hq, hsame⟩

/-- An id that is the same as no listed one represents itself. -/
theorem concat (h : Represents ids listed) {id : ThreadId}
    (hnew : ∀ q ∈ listed, ¬ q.1.isSame id = true) :
    Represents (ids ++ [id]) (listed ++ [(id, ids.length)]) := by
  refine ⟨?_, ?_, ?_⟩
  · rw [zipIdx_concat]
    exact h.sublist.append (List.Sublist.refl _)
  · refine List.pairwise_append.2 ⟨h.apart, List.pairwise_singleton _ _, fun q hq p hp => ?_⟩
    rw [List.mem_singleton.1 hp]
    exact ⟨hnew q hq, fun hsame => hnew q hq (ThreadId.isSame_symm hsame)⟩
  · rw [zipIdx_concat]
    refine List.forall_mem_append.2 ⟨fun p hp => ?_, List.forall_mem_singleton.2 (.inl (by simp))⟩
    rcases h.covers p hp with hp | ⟨q, hq, hlt, hsame⟩
    · exact .inl (List.mem_append_left _ hp)
    · exact .inr ⟨q, List.mem_append_left _ hq, hlt, hsame⟩

/-- **One more id keeps a list that represents its ids.** -/
theorem add (h : Represents ids listed) (id : ThreadId) :
    ∃ listed', Represents (ids ++ [id]) listed' ∧
      addThread (listed.map Prod.fst) id = listed'.map Prod.fst := by
  unfold addThread
  split
  · rename_i hany
    rw [List.any_map, List.any_eq_true] at hany
    exact ⟨listed, h.pass hany, rfl⟩
  · rename_i hany
    rw [List.any_map, List.any_eq_true, not_exists] at hany
    refine ⟨_, h.concat fun q hq hsame => hany q ⟨hq, hsame⟩, ?_⟩
    rw [List.map_append]
    rfl

end Represents

/-- **A list without repetitions represents its ids.** -/
theorem exists_represents (ids : List ThreadId) :
    ∃ listed, Represents ids listed ∧ distinctThreads ids = listed.map Prod.fst := by
  unfold distinctThreads
  -- the ids are taken from the first to the last
  induction ids using List.reverseRecOn with
  | nil => exact ⟨[], .nil, rfl⟩
  | append_singleton ids id ih =>
    obtain ⟨listed, h, heq⟩ := ih
    obtain ⟨listed', h', heq'⟩ := h.add id
    refine ⟨listed', h', ?_⟩
    rw [List.foldl_append, heq, ← heq']
    rfl

/-- The first id is contained in the others, which are told apart. So it stands for both if it comes
first, and both of them stand for it if it comes last. -/
example :
    (distinctThreads (["0x1a0", "0x1a01", "0x1a02"].map .parse)).length = 1 ∧
      (distinctThreads (["0x1a01", "0x1a02", "0x1a0"].map .parse)).length = 2 := by
  decide +kernel

/-- An id without text stands for nothing, not even for itself. -/
example : distinctThreads [.empty, .empty] = [.empty, .empty] := by decide +kernel

/-! ## Plain lists -/

theorem distinctThreads_sublist (ids : List ThreadId) : (distinctThreads ids).Sublist ids := by
  obtain ⟨listed, h, heq⟩ := exists_represents ids
  have hsub := h.sublist.map Prod.fst
  rwa [List.zipIdx_map_fst, ← heq] at hsub

/-- No listed id repeats an earlier one. -/
theorem distinctThreads_pairwise (ids : List ThreadId) :
    (distinctThreads ids).Pairwise fun a b => ¬ a.isSame b = true := by
  obtain ⟨listed, h, heq⟩ := exists_represents ids
  rw [heq, List.pairwise_map]
  exact h.apart.imp And.left

/-- Every id is listed or repeats a listed one. -/
theorem exists_mem_distinctThreads {id : ThreadId} (hid : id ∈ ids) :
    ∃ d ∈ distinctThreads ids, d = id ∨ d.isSame id = true := by
  obtain ⟨listed, h, heq⟩ := exists_represents ids
  rw [heq]
  obtain ⟨p, hp, rfl⟩ : ∃ p ∈ ids.zipIdx, p.1 = id := by
    rw [← List.zipIdx_map_fst 0 ids, List.mem_map] at hid
    exact hid
  rcases h.covers p hp with hp | ⟨q, hq, -, hsame⟩
  · exact ⟨p.1, List.mem_map_of_mem hp, .inl rfl⟩
  · exact ⟨q.1, List.mem_map_of_mem hq, .inr hsame⟩

end Postmortem
