import Postmortem.Proofs.Stack.Attribution
import Postmortem.Proofs.Thread.HexText

/-!
# Stacks that reach their own threads

A runtime stack goes to the first thread that owns it, and a thread owns it if either of
its ids can be the stack's. So another thread that is listed before can take the stack, and
another stack that comes before can take the thread. `positionOf_eq` says that nothing else
stands between a stack and its thread.

* `attributes_of_osId`: **with OS ids in base sixteen a stack is merged into the thread of
  its OS id**, unless an earlier thread or stack can be taken for them.
-/

namespace Postmortem

open RuntimeState

variable {threads : List Thread} {runtime : List ThreadStack}

/-! ## First owners -/

/-- The slots have the threads of the list, so they have the same first owner. -/
theorem findIdx?_after (threads : List Thread) (runtime : List ThreadStack) (n : ℕ)
    (stack : ThreadStack) :
    (after (emptySlots threads) runtime n).1.findIdx?
      (fun slot => slot.thread.ownsRuntime stack) =
        threads.findIdx? fun t => t.ownsRuntime stack := by
  conv_rhs => rw [← map_thread_after_emptySlots threads runtime n, List.findIdx?_map]
  rfl

/-- A stack that goes to a thread of the list goes to the first one that owns it. -/
theorem findIdx?_of_positionOf {k : Fin runtime.length} {i : ℕ} (hi : i < threads.length)
    (h : positionOf (emptySlots threads) runtime k = i) :
    threads.findIdx? (fun t => t.ownsRuntime (runtime.get k)) = some i := by
  have hlength := congrArg List.length (map_thread_after_emptySlots threads runtime k)
  rw [List.length_map] at hlength
  obtain ⟨j, hfind, -, -, hpos, -⟩ | ⟨-, hpos, -⟩ :=
    assignRuntime_cases (after (emptySlots threads) runtime k) (runtime.get k)
  · obtain rfl : j = i := hpos.symm.trans h
    rwa [findIdx?_after] at hfind
  · have hend : positionOf (emptySlots threads) runtime k = _ := hpos
    omega

/-- **A stack goes to the first thread that owns it**, unless that thread is the first one
that owns an earlier stack as well. -/
theorem positionOf_eq {i : Fin threads.length} {k : Fin runtime.length}
    (howns : (threads.get i).ownsRuntime (runtime.get k) = true)
    (hthreads : ∀ j < i, (threads.get j).ownsRuntime (runtime.get k) = false)
    (hstacks : ∀ l < k, (threads.get i).ownsRuntime (runtime.get l) = true →
      ∃ j < i, (threads.get j).ownsRuntime (runtime.get l) = true) :
    positionOf (emptySlots threads) runtime k = i := by
  have hfirst : threads.findIdx? (fun t => t.ownsRuntime (runtime.get k)) = some i :=
    List.findIdx?_eq_some_iff_getElem.2
      ⟨i.isLt, howns, fun j hj => by simpa using hthreads ⟨j, hj.trans i.isLt⟩ hj⟩
  -- no earlier stack has gone to the thread
  have hempty : heldAt (after (emptySlots threads) runtime k) i = none := by
    rw [(heldAt_after (emptySlots threads) runtime k k.isLt.le).2 i, heldAt_emptySlots]
    intro l hl hpos
    obtain ⟨_, hown, hnone⟩ :=
      List.findIdx?_eq_some_iff_getElem.1 (findIdx?_of_positionOf i.isLt hpos)
    obtain ⟨j, hji, hj⟩ := hstacks l hl hown
    exact hnone j hji hj
  rw [← findIdx?_after threads runtime k] at hfirst
  obtain ⟨j, hfind, -, -, hpos, -⟩ | ⟨htaken, -, -⟩ :=
    assignRuntime_cases (after (emptySlots threads) runtime k) (runtime.get k)
  · rw [hfirst] at hfind
    rw [Option.some.inj hfind]
    exact hpos
  · exact absurd hempty (htaken i hfirst)

/-! ## OS ids in base sixteen -/

/-- **Threads and runtime stacks with OS ids in base sixteen**, of which no two threads and
no two stacks have the same. -/
structure OsIdsIn (threads : List Thread) (runtime : List ThreadStack)
    (osId : Fin threads.length → HexText) (stackId : Fin runtime.length → HexText) : Prop where
  threads_osId : ∀ i, (threads.get i).osThreadId = some (osId i).id
  runtime_osId : ∀ k, (runtime.get k).osThreadId = some (stackId k).id
  osId_injective : Function.Injective fun i => (osId i).value
  stackId_injective : Function.Injective fun k => (stackId k).value

namespace OsIdsIn

variable {osId : Fin threads.length → HexText} {stackId : Fin runtime.length → HexText}

/-- A thread owns a stack if the stack's OS id can be the thread's OS id or its number. -/
theorem ownsRuntime_iff (h : OsIdsIn threads runtime osId stackId) (i : Fin threads.length)
    (k : Fin runtime.length) : (threads.get i).ownsRuntime (runtime.get k) = true ↔
      (threads.get i).id.isSame (stackId k).id = true ∨ (osId i).value = (stackId k).value ∨
        (osId i).Confusable (stackId k) := by
  unfold Thread.ownsRuntime Thread.hasId
  rw [h.threads_osId, h.runtime_osId]
  dsimp only
  rw [Option.any_some, Bool.or_eq_true, HexText.isSame_id_iff]

theorem ownsRuntime_eq_false (h : OsIdsIn threads runtime osId stackId) {i : Fin threads.length}
    {k : Fin runtime.length} (hindex : (threads.get i).id.isSame (stackId k).id = false)
    (hv : (osId i).value ≠ (stackId k).value) (hc : ¬ (osId i).Confusable (stackId k)) :
    (threads.get i).ownsRuntime (runtime.get k) = false := by
  rw [Bool.eq_false_iff, Ne, h.ownsRuntime_iff, hindex]
  rintro (hfalse | hvalue | hconf)
  · cases hfalse
  · exact hv hvalue
  · exact hc hconf

end OsIdsIn

/-- **A runtime stack is merged into the thread of its OS id, and into no other**, whatever
the frames are, as long as no earlier thread can be taken for the stack's, and the thread
cannot be taken for that of an earlier stack without an earlier thread of its own. -/
theorem attributes_of_osId (layout : StackLayout) {osId : Fin threads.length → HexText}
    {stackId : Fin runtime.length → HexText} (h : OsIdsIn threads runtime osId stackId)
    {i : Fin threads.length} {k : Fin runtime.length} (hv : (osId i).value = (stackId k).value)
    (hthreads : ∀ j < i, ¬ (osId j).Confusable (stackId k))
    (hstacks : ∀ l < k, (osId i).Confusable (stackId l) → ∃ j < i,
      (osId j).value = (stackId l).value)
    (hnumbers : ∀ j < i, (threads.get j).id.isSame (stackId k).id = false)
    (hnumber : ∀ l < k, (threads.get i).id.isSame (stackId l).id = false) :
    ∃ position, Attributes layout (callStackAt threads) runtime
      (correlate layout threads [] runtime) position ∧ (position k : ℕ) = i := by
  obtain ⟨position, hpos, hattr⟩ := attributes_positionOf layout threads [] runtime
  refine ⟨position, hattr, (hpos k).trans (positionOf_eq ?_ (fun j hj => ?_) fun l hl hown => ?_)⟩
  · exact (h.ownsRuntime_iff i k).2 (.inr (.inl hv))
  · refine h.ownsRuntime_eq_false (hnumbers j hj) (fun hvj => ?_) (hthreads j hj)
    exact hj.ne (h.osId_injective (hvj.trans hv.symm))
  · rcases (h.ownsRuntime_iff i l).1 hown with hsame | hvl | hconf
    · exact absurd (hsame.symm.trans (hnumber l hl)) (by simp)
    · exact absurd (h.stackId_injective (hvl.symm.trans hv)) hl.ne
    · obtain ⟨j, hj, hvj⟩ := hstacks l hl hconf
      exact ⟨j, hj, (h.ownsRuntime_iff j l).2 (.inr (.inl hvj))⟩

/-- Threads with these numbers and OS ids. -/
def threadsOf (ids : List (ℕ × HexText)) : List Thread :=
  ids.map fun (n, os) => { id := .parse (toString n), osThreadId := some os.id }

/-- Runtime stacks of one frame with these OS ids. -/
def stacksOf (ids : List HexText) : List ThreadStack :=
  ids.map fun os => { osThreadId := some os.id, frames := [{ isRuntimeTracked := true }] }

/-- The stacks come in another order and with other spellings than the threads. -/
theorem attributes_of_osId_spellings :
    let first : HexText := ⟨.bare, "2A3C".toList, by decide⟩
    let second : HexText := ⟨.small, "2b40".toList, by decide⟩
    let third : HexText := ⟨.bare, "7".toList, by decide⟩
    let first' : HexText := ⟨.small, "2a3c".toList, by decide⟩
    let second' : HexText := ⟨.bare, "00002b40".toList, by decide⟩
    let third' : HexText := ⟨.capital, "07".toList, by decide⟩
    let threads := threadsOf [(0, first), (1, second), (2, third)]
    let runtime := stacksOf [third', second', first']
    let osId : Fin threads.length → HexText := ![first, second, third]
    let stackId : Fin runtime.length → HexText := ![third', second', first']
    let i : Fin threads.length := ⟨1, by decide⟩
    let k : Fin runtime.length := ⟨1, by decide⟩
    OsIdsIn threads runtime osId stackId ∧ (osId i).value = (stackId k).value ∧
      (∀ j < i, ¬ (osId j).Confusable (stackId k)) ∧
      (∀ l < k, (osId i).Confusable (stackId l) → ∃ j < i,
        (osId j).value = (stackId l).value) ∧
      (∀ j < i, (threads.get j).id.isSame (stackId k).id = false) ∧
      (∀ l < k, (threads.get i).id.isSame (stackId l).id = false) ∧
      ∃ position, Attributes {} (callStackAt threads) runtime
        (correlate {} threads [] runtime) position ∧ (position k : ℕ) = i := by
  intro first second third first' second' third' threads runtime osId stackId i k
  have hids : OsIdsIn threads runtime osId stackId :=
    ⟨by decide +kernel, by decide +kernel, by decide +kernel, by decide +kernel⟩
  have hv : (osId i).value = (stackId k).value := by decide +kernel
  have hthreads : ∀ j : Fin 3, j < 1 → ¬ (![first, second, third] j).Confusable second' := by
    decide +kernel
  have hapart : ∀ l : Fin 3, l < 1 → ¬ second.Confusable (![third', second', first'] l) := by
    decide +kernel
  have hstacks : ∀ l < k, (osId i).Confusable (stackId l) → ∃ j < i,
      (osId j).value = (stackId l).value :=
    fun l hl hconf => absurd hconf (hapart l hl)
  have hnumbers : ∀ j < i, (threads.get j).id.isSame (stackId k).id = false := by decide +kernel
  have hnumber : ∀ l < k, (threads.get i).id.isSame (stackId l).id = false := by decide +kernel
  exact ⟨hids, hv, hthreads, hstacks, hnumbers, hnumber,
    attributes_of_osId {} hids hv hthreads hstacks hnumbers hnumber⟩

/-- Different OS ids are not enough: a stack goes to an earlier thread whose OS id is a part
of its own. -/
theorem not_attributes_of_contained :
    ¬ ∀ (layout : StackLayout) (threads : List Thread) (runtime : List ThreadStack)
      (osId : Fin threads.length → HexText) (stackId : Fin runtime.length → HexText),
      (∀ t ∈ threads, ∃ n : ℕ, t.id = .parse (toString n)) →
        OsIdsIn threads runtime osId stackId →
          ∀ i k, (osId i).value = (stackId k).value →
            ∃ position, Attributes layout (callStackAt threads) runtime
              (correlate layout threads [] runtime) position ∧ (position k : ℕ) = i := by
  let short : HexText := ⟨.small, "1a0".toList, by decide⟩
  let long : HexText := ⟨.small, "1a01".toList, by decide⟩
  let threads := threadsOf [(1, short), (2, long)]
  let runtime := stacksOf [long]
  -- the second thread does not have the frame of the stack
  have hdiffers : ∀ p : Fin (correlate {} threads [] runtime).length, (p : ℕ) = 1 →
      (correlate {} threads [] runtime)[p].callStack ≠
        (StackLayout.merge {} (callStackAt threads p) [{ isRuntimeTracked := true }]).frames := by
    decide +kernel
  intro h
  have hnumbers : ∀ t ∈ threads, ∃ n : ℕ, t.id = .parse (toString n) := by
    intro t ht
    obtain ⟨p, -, rfl⟩ := List.mem_map.1 ht
    exact ⟨p.1, rfl⟩
  have hids : OsIdsIn threads runtime ![short, long] ![long] :=
    ⟨by decide +kernel, by decide +kernel, by decide +kernel, by decide +kernel⟩
  obtain ⟨position, hattr, hpos⟩ := h {} threads runtime ![short, long] ![long] hnumbers hids
    ⟨1, by decide⟩ ⟨0, by decide⟩ rfl
  exact hdiffers _ hpos (hattr.merged ⟨0, by decide⟩)

end Postmortem
