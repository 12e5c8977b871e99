import Mathlib.Data.Finset.Card
import Postmortem.Proofs.Lock.Representatives
import Postmortem.Proofs.Thread.HexText

/-!
# Threads that hold and wait

Holders and waiting threads are listed without repetitions, where an id repeats another if
the two can be one thread's. That is no equivalence, so a list may lack a thread that it
should have, although every id has an earlier one in the list that stands for it.

* `analyzeLocks_represents`: **the lists represent the owners and the waiting threads**, and the
  involved threads are the holders that a waiting thread can be.

Where ids tell threads apart, that is, where no two ids of different numbers are confusable,
nothing is lost:

* `idNumbers_distinctThreads`: a list without repetitions has the numbers of all ids;
* `involvedThreads_counts`: **the involved threads are counted exactly**, and the verdict
  follows from the count.
-/

namespace Postmortem

/-! ## Ids that tell threads apart -/

/-- The numbers that the ids stand for in base sixteen. -/
def idNumbers (ids : List ThreadId) : Finset ℕ := (ids.filterMap ThreadId.hex).toFinset

theorem mem_idNumbers_iff {ids : List ThreadId} {n : ℕ} :
    n ∈ idNumbers ids ↔ ∃ id ∈ ids, id.hex = some n := by
  unfold idNumbers
  rw [List.mem_toFinset, List.mem_filterMap]

/-- Ids in base sixteen, of which no two with different numbers are confusable. -/
structure ToldApart (ids : List ThreadId) : Prop where
  hex : ∀ id ∈ ids, ∃ n, id.hex = some n
  isSame_iff : ∀ a ∈ ids, ∀ b ∈ ids, a.isSame b = true ↔ a.hex = b.hex

theorem toldApart_map_id {texts : List HexText} (hfits : ∀ t ∈ texts, t.value < 2 ^ 64)
    (h : ∀ a ∈ texts, ∀ b ∈ texts, a.value ≠ b.value → ¬ a.Confusable b) :
    ToldApart (texts.map HexText.id) := by
  have hhex : ∀ t ∈ texts, t.id.hex = some t.value := fun t ht => HexText.hex_id (hfits t ht)
  refine ⟨fun id hid => ?_, fun x hx y hy => ?_⟩
  · obtain ⟨t, ht, rfl⟩ := List.mem_map.1 hid
    exact ⟨t.value, hhex t ht⟩
  · obtain ⟨a, ha, rfl⟩ := List.mem_map.1 hx
    obtain ⟨b, hb, rfl⟩ := List.mem_map.1 hy
    rw [HexText.isSame_id_iff, hhex a ha, hhex b hb, Option.some.injEq]
    exact or_iff_left_of_imp fun hc => by_contra fun hne => h a ha b hb hne hc

namespace ToldApart

variable {all ids : List ThreadId}

/-- **A list without repetitions has the numbers of all ids.** -/
theorem idNumbers_distinctThreads (h : ToldApart all) (hsub : ids ⊆ all) :
    idNumbers (distinctThreads ids) = idNumbers ids := by
  ext n
  rw [mem_idNumbers_iff, mem_idNumbers_iff]
  constructor
  · rintro ⟨id, hid, hn⟩
    exact ⟨id, (distinctThreads_sublist ids).subset hid, hn⟩
  · rintro ⟨id, hid, hn⟩
    obtain ⟨d, hd, rfl | hsame⟩ := exists_mem_distinctThreads hid
    · exact ⟨d, hd, hn⟩
    · have hdall := hsub ((distinctThreads_sublist ids).subset hd)
      exact ⟨d, hd, ((h.isSame_iff d hdall id (hsub hid)).1 hsame).trans hn⟩

/-- **Ids that can be one of others have the numbers that both lists have.** -/
theorem idNumbers_filter_any {others : List ThreadId} (h : ToldApart all) (hsub : ids ⊆ all)
    (hothers : others ⊆ all) :
    idNumbers (ids.filter fun id => others.any (·.isSame id)) =
      idNumbers ids ∩ idNumbers others := by
  ext n
  rw [Finset.mem_inter, mem_idNumbers_iff, mem_idNumbers_iff, mem_idNumbers_iff]
  constructor
  · rintro ⟨id, hid, hn⟩
    obtain ⟨hid, hany⟩ := List.mem_filter.1 hid
    obtain ⟨other, hother, hsame⟩ := List.any_eq_true.1 hany
    have hhex := (h.isSame_iff other (hothers hother) id (hsub hid)).1 hsame
    exact ⟨⟨id, hid, hn⟩, other, hother, hhex.trans hn⟩
  · rintro ⟨⟨id, hid, hn⟩, other, hother, hm⟩
    have hsame := (h.isSame_iff other (hothers hother) id (hsub hid)).2 (hm.trans hn.symm)
    exact ⟨id, List.mem_filter.2 ⟨hid, List.any_eq_true.2 ⟨other, hother, hsame⟩⟩, hn⟩

/-- No number is listed twice. -/
theorem nodup_distinctThreads (h : ToldApart all) (hsub : ids ⊆ all) :
    ((distinctThreads ids).filterMap ThreadId.hex).Nodup := by
  refine List.pairwise_filterMap.2 ?_
  refine (distinctThreads_pairwise ids).imp_of_mem fun {a b} ha hb hab m hm n hn hmn => ?_
  have hin := List.Subset.trans (distinctThreads_sublist ids).subset hsub
  exact hab ((h.isSame_iff a (hin ha) b (hin hb)).2 (hm.trans (hmn ▸ hn.symm)))

/-- Each of the ids has its own number, if no number is listed twice. -/
theorem card_idNumbers (h : ToldApart all) (hsub : ids ⊆ all)
    (hnodup : (ids.filterMap ThreadId.hex).Nodup) : (idNumbers ids).card = ids.length := by
  unfold idNumbers
  rw [List.toFinset_card_of_nodup hnodup, List.length_filterMap_eq_countP, List.countP_eq_length]
  intro id hid
  obtain ⟨n, hn⟩ := h.hex id (hsub hid)
  rw [hn]
  rfl

end ToldApart

/-! ## Involved threads -/

/-- The owners of locks, in the order of the locks. -/
def LockTable.owners (locks : LockTable) : List ThreadId :=
  locks.entries.filterMap LockEntry.owner

/-- The threads that wait, in the order of the listing. -/
def waitingThreads (states : List ThreadState) : List ThreadId :=
  (states.filter ThreadState.waiting).map ThreadState.thread

/-- The numbers of the threads that hold a lock and wait. -/
def heldWhileWaiting (locks : LockTable) (states : List ThreadState) : Finset ℕ :=
  idNumbers locks.owners ∩ idNumbers (waitingThreads states)

/-- **The involved threads are those that hold a lock and wait**: their numbers are, and no
number is there twice. -/
theorem ToldApart.involvedThreads {locks : LockTable} {states : List ThreadState}
    (h : ToldApart (locks.owners ++ waitingThreads states)) :
    idNumbers (analyzeLocks locks states).involvedThreads = heldWhileWaiting locks states ∧
      (analyzeLocks locks states).involvedThreads.length =
        (heldWhileWaiting locks states).card := by
  have howners : locks.owners ⊆ locks.owners ++ waitingThreads states :=
    List.subset_append_left _ _
  have hwaiting : waitingThreads states ⊆ locks.owners ++ waitingThreads states :=
    List.subset_append_right _ _
  set holders := distinctThreads locks.owners
  set waiting := distinctThreads (waitingThreads states)
  have hholdersIn := List.Subset.trans (distinctThreads_sublist locks.owners).subset howners
  have hwaitIn :=
    List.Subset.trans (distinctThreads_sublist (waitingThreads states)).subset hwaiting
  have hinvolved : (analyzeLocks locks states).involvedThreads =
      holders.filter fun holder => waiting.any (·.isSame holder) := rfl
  have hsub : (analyzeLocks locks states).involvedThreads.Sublist holders := by
    rw [hinvolved]
    exact List.filter_sublist
  have hnumbers : idNumbers (analyzeLocks locks states).involvedThreads =
      heldWhileWaiting locks states := by
    unfold heldWhileWaiting
    rw [hinvolved, h.idNumbers_filter_any hholdersIn hwaitIn,
      h.idNumbers_distinctThreads howners, h.idNumbers_distinctThreads hwaiting]
  refine ⟨hnumbers, ?_⟩
  rw [← hnumbers]
  refine (h.card_idNumbers (List.Subset.trans hsub.subset hholdersIn) ?_).symm
  exact (h.nodup_distinctThreads howners).sublist (hsub.filterMap _)

/-- **The analysis counts `n` threads that hold a lock and wait**, and judges by it. -/
structure DeadlockAnalysis.Counts (analysis : DeadlockAnalysis) (n : ℕ) : Prop where
  involved : analysis.involvedThreads.length = n
  deadlock : analysis.verdict = .deadlock ↔ 2 ≤ n
  advisory : analysis.verdict = .advisory ↔ n = 1
  none : analysis.verdict = .none ↔ n = 0

/-- The verdict is judged by the number of involved threads alone. -/
theorem analyzeLocks_counts {locks : LockTable} {states : List ThreadState} {n : ℕ}
    (h : (analyzeLocks locks states).involvedThreads.length = n) :
    (analyzeLocks locks states).Counts n := by
  have hverdict : (analyzeLocks locks states).verdict = .ofCount n := by rw [← h]; rfl
  have hcount : DeadlockVerdict.ofCount n =
      if n = 0 then .none else if n < 2 then .advisory else .deadlock := rfl
  refine ⟨h, ?_, ?_, ?_⟩ <;> rw [hverdict, hcount]
  · split
    · simp; omega
    · split <;> simp <;> omega
  · split
    · simp; omega
    · split <;> simp <;> omega
  · split
    · simpa using ‹_›
    · split <;> simpa using ‹_›

/-- **The lists of an analysis represent its inputs**, whatever the ids are. The involved threads
are the holders that some listed waiting thread can be, and the verdict follows from their number. -/
theorem analyzeLocks_represents (locks : LockTable) (states : List ThreadState) :
    let analysis := analyzeLocks locks states
    (∃ listed, Represents locks.owners listed ∧ analysis.holders = listed.map Prod.fst) ∧
    (∃ listed, Represents (waitingThreads states) listed ∧
      analysis.waiting = listed.map Prod.fst) ∧
    analysis.involvedThreads =
      analysis.holders.filter (fun holder => ∃ id ∈ analysis.waiting, id.isSame holder = true) ∧
    analysis.Counts analysis.involvedThreads.length := by
  refine ⟨exists_represents _, exists_represents _, ?_, analyzeLocks_counts rfl⟩
  refine List.filter_congr fun holder _ => ?_
  rw [Bool.eq_iff_iff, List.any_eq_true, decide_eq_true_eq]
  exact Iff.rfl

/-- **Threads that hold a lock and wait are counted exactly**, whatever the order and the
spelling of their ids, as long as no two ids of different numbers are confusable. -/
theorem involvedThreads_counts {locks : LockTable} {states : List ThreadState}
    {owners waiters : List HexText} (howners : locks.owners = owners.map HexText.id)
    (hwaiters : waitingThreads states = waiters.map HexText.id)
    (hfits : ∀ t ∈ owners ++ waiters, t.value < 2 ^ 64)
    (hclear : ∀ a ∈ owners ++ waiters, ∀ b ∈ owners ++ waiters,
      a.value ≠ b.value → ¬ a.Confusable b) :
    idNumbers (analyzeLocks locks states).involvedThreads = heldWhileWaiting locks states ∧
      (analyzeLocks locks states).Counts (heldWhileWaiting locks states).card := by
  have happart : ToldApart (locks.owners ++ waitingThreads states) := by
    rw [howners, hwaiters, ← List.map_append]
    exact toldApart_map_id hfits hclear
  exact ⟨happart.involvedThreads.1, analyzeLocks_counts happart.involvedThreads.2⟩

/-- The locks of some owners. -/
def locksOf (owners : List HexText) : LockTable :=
  ⟨owners.map fun t => { lockId := "1", monitorHeld := 3, owner := some t.id }⟩

/-- Threads that wait. -/
def waitStatesOf (threads : List HexText) : List ThreadState :=
  threads.map fun t => { thread := t.id, waiting := true, description := "" }

/-- Two owners, one of them of two locks, wait under other spellings. -/
theorem involvedThreads_counts_spellings :
    let owners : List HexText :=
      [⟨.small, "1a01".toList, by decide⟩,
        ⟨.small, "2002".toList, by decide⟩,
        ⟨.small, "1A01".toList, by decide⟩]
    let waiters : List HexText :=
      [⟨.bare, "2002".toList, by decide⟩,
        ⟨.bare, "3c".toList, by decide⟩,
        ⟨.bare, "001A01".toList, by decide⟩]
    (locksOf owners).owners = owners.map HexText.id ∧
      waitingThreads (waitStatesOf waiters) = waiters.map HexText.id ∧
      (∀ t ∈ owners ++ waiters, t.value < 2 ^ 64) ∧
      (∀ a ∈ owners ++ waiters, ∀ b ∈ owners ++ waiters, a.value ≠ b.value → ¬ a.Confusable b) ∧
      heldWhileWaiting (locksOf owners) (waitStatesOf waiters) = {0x1a01, 0x2002} ∧
      (analyzeLocks (locksOf owners) (waitStatesOf waiters)).Counts
        (heldWhileWaiting (locksOf owners) (waitStatesOf waiters)).card := by
  intro owners waiters
  have howners : (locksOf owners).owners = owners.map HexText.id := by decide +kernel
  have hwaiters : waitingThreads (waitStatesOf waiters) = waiters.map HexText.id := by
    decide +kernel
  have hfits : ∀ t ∈ owners ++ waiters, t.value < 2 ^ 64 := by decide +kernel
  have hclear : ∀ a ∈ owners ++ waiters, ∀ b ∈ owners ++ waiters,
      a.value ≠ b.value → ¬ a.Confusable b := by
    decide +kernel
  exact ⟨howners, hwaiters, hfits, hclear, by decide +kernel,
    (involvedThreads_counts howners hwaiters hfits hclear).2⟩

/-- Different numbers are not enough: the number of one owner may be a part of another's. -/
theorem not_counts_of_contained :
    ¬ ∀ (locks : LockTable) (states : List ThreadState) (owners threads : List HexText),
      (∀ t ∈ owners, t.lead = .small) → (∀ t ∈ owners ++ threads, t.value < 2 ^ 64) →
        locks.owners = owners.map HexText.id →
          states.map ThreadState.thread = threads.map HexText.id →
            (analyzeLocks locks states).Counts (heldWhileWaiting locks states).card := by
  intro h
  let ids : List HexText :=
    [⟨.small, "1a0".toList, by decide⟩,
      ⟨.small, "1a01".toList, by decide⟩]
  have hcounts := (h (locksOf ids) (waitStatesOf ids) ids ids (by decide +kernel)
    (by decide +kernel) (by decide +kernel) (by decide +kernel)).involved
  have hone : (analyzeLocks (locksOf ids) (waitStatesOf ids)).involvedThreads.length = 1 := by
    decide +kernel
  have htwo : (heldWhileWaiting (locksOf ids) (waitStatesOf ids)).card = 2 := by decide +kernel
  rw [hone, htwo] at hcounts
  cases hcounts

end Postmortem
