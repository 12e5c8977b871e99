import Mathlib.Tactic
import Postmortem.Stack.Correlation

/-!
# Which thread a stack goes to

Native stacks are attached to threads one after the other, and each may fill in an OS id or
make a thread, so the thread of a stack depends on those before it (`attachPosition`). The
stacks of the runtime come next. Each goes to a thread of the list or makes one of its own
(`runtimePosition`), and the position that it goes to holds no other one (`heldAt`).

* `Thread.Continues`: what a thread of the list keeps.
* `callStackAt_foldl_attachNative`: **a thread has the frames of the last native stack that
  is attached to it**, or those it came with.
* `heldAt_assignRuntime`: a step fills one position, which was empty.
* `correlate_attributes`: **every runtime stack goes to one thread, and no thread has two**.
-/

namespace Postmortem

/-! ## Native stacks -/

/-- **What a thread keeps while stacks are attached**: everything but its frames, and its
OS id if it has one. -/
structure Thread.Continues (after before : Thread) : Prop where
  id : after.id = before.id
  osThreadId : ∀ os, before.osThreadId = some os → after.osThreadId = some os
  managedId : after.managedId = before.managedId
  name : after.name = before.name
  state : after.state = before.state
  isFaulting : after.isFaulting = before.isFaulting
  isThreadPool : after.isThreadPool = before.isThreadPool
  lockCount : after.lockCount = before.lockCount
  exception : after.exception = before.exception

theorem Thread.Continues.refl (thread : Thread) : thread.Continues thread :=
  ⟨rfl, fun _ h => h, rfl, rfl, rfl, rfl, rfl, rfl, rfl⟩

theorem Thread.Continues.trans {a b c : Thread} (hab : a.Continues b) (hbc : b.Continues c) :
    a.Continues c :=
  ⟨hab.id.trans hbc.id, fun os h => hab.osThreadId os (hbc.osThreadId os h),
    hab.managedId.trans hbc.managedId, hab.name.trans hbc.name, hab.state.trans hbc.state,
    hab.isFaulting.trans hbc.isFaulting, hab.isThreadPool.trans hbc.isThreadPool,
    hab.lockCount.trans hbc.lockCount, hab.exception.trans hbc.exception⟩

/-- The position of the thread that a native stack is attached to: the first one that owns
it, or else a new one at the end. -/
def attachPosition (threads : List Thread) (stack : ThreadStack) : ℕ :=
  (threads.findIdx? fun t => t.owns stack.threadId stack.osThreadId).getD threads.length

/-- The native stacks that are attached to the thread at a position, in their order. -/
def attachedStacks : List Thread → List ThreadStack → ℕ → List ThreadStack
  | _, [], _ => []
  | threads, stack :: rest, i =>
    if attachPosition threads stack = i then
      stack :: attachedStacks (attachNative threads stack) rest i
    else attachedStacks (attachNative threads stack) rest i

/-- The frames of the thread at a position, none if there is no thread. -/
def callStackAt (threads : List Thread) (i : ℕ) : List Frame :=
  (threads[i]?.map Thread.callStack).getD []

/-- The native frames of the thread at a position: those of the last native stack that is
attached to it, or else those it came with. -/
def nativeFramesAt (threads : List Thread) (native : List ThreadStack) (i : ℕ) : List Frame :=
  ((attachedStacks threads native i).getLast?.map ThreadStack.frames).getD (callStackAt threads i)

variable {threads : List Thread} {i : ℕ}

/-- An attached stack changes the frames of its thread and of no other. -/
theorem callStackAt_attachNative (threads : List Thread) (stack : ThreadStack) (i : ℕ) :
    callStackAt (attachNative threads stack) i =
      if attachPosition threads stack = i then stack.frames else callStackAt threads i := by
  unfold attachNative attachPosition callStackAt
  cases hfind : threads.findIdx? fun t => t.owns stack.threadId stack.osThreadId with
  | some j =>
    obtain ⟨hj, -⟩ := List.findIdx?_eq_some_iff_getElem.1 hfind
    simp only [Option.getD_some, List.getElem?_modify]
    by_cases hji : j = i
    · subst hji
      simp [hj]
    · simp [hji]
  | none =>
    simp only [Option.getD_none, List.getElem?_append]
    rcases lt_trichotomy i threads.length with hi | rfl | hi
    · simp [hi, hi.ne']
    · simp
    · rw [if_neg (by omega), if_neg (by omega), List.getElem?_eq_none (by simp; omega),
        List.getElem?_eq_none (by omega)]

/-- **A thread has the frames of the last native stack that is attached to it**, or those it
came with. -/
theorem callStackAt_foldl_attachNative (native : List ThreadStack) :
    ∀ threads i, callStackAt (native.foldl attachNative threads) i =
      nativeFramesAt threads native i := by
  induction native with
  | nil => exact fun threads i => rfl
  | cons stack rest ih =>
    intro threads i
    rw [List.foldl_cons, ih (attachNative threads stack) i]
    unfold nativeFramesAt
    rw [callStackAt_attachNative]
    conv_rhs => unfold attachedStacks
    -- a later stack overwrites this one, and without a later one this is the last
    cases hlater : attachedStacks (attachNative threads stack) rest i with
    | nil => split <;> simp
    | cons s later => split <;> simp [List.getLast?_cons]

theorem Thread.continues_attach (t : Thread) (stack : ThreadStack) :
    Thread.Continues { t with
      osThreadId := t.osThreadId <|> stack.osThreadId, callStack := stack.frames } t := by
  refine ⟨rfl, fun os hos => ?_, rfl, rfl, rfl, rfl, rfl, rfl, rfl⟩
  show (t.osThreadId <|> stack.osThreadId) = some os
  rw [hos]
  rfl

/-- An attached stack leaves the threads of the list where they are. -/
theorem attachNative_continues (stack : ThreadStack) {t : Thread} (h : threads[i]? = some t) :
    ∃ t', (attachNative threads stack)[i]? = some t' ∧ t'.Continues t := by
  unfold attachNative
  have hi : i < threads.length := (List.getElem?_eq_some_iff.1 h).1
  split
  · rename_i j _
    simp only [List.getElem?_modify, h, Option.map_eq_map, Option.map_some]
    by_cases hji : j = i
    · rw [if_pos hji]
      exact ⟨_, rfl, t.continues_attach stack⟩
    · rw [if_neg hji]
      exact ⟨t, rfl, Thread.Continues.refl t⟩
  · rw [List.getElem?_append_left hi]
    exact ⟨t, h, Thread.Continues.refl t⟩

theorem foldl_attachNative_continues (native : List ThreadStack) :
    ∀ {threads : List Thread} {t : Thread}, threads[i]? = some t →
      ∃ t', (native.foldl attachNative threads)[i]? = some t' ∧ t'.Continues t := by
  induction native with
  | nil => exact fun {threads t} h => ⟨t, h, Thread.Continues.refl t⟩
  | cons stack rest ih =>
    intro threads t h
    obtain ⟨t₁, h₁, hc₁⟩ := attachNative_continues stack h
    obtain ⟨t₂, h₂, hc₂⟩ := ih h₁
    exact ⟨t₂, h₂, hc₂.trans hc₁⟩

/-! ## Stacks of the runtime -/

/-- The slots of threads and the runtime stacks that were kept aside so far. -/
abbrev RuntimeState := List RuntimeSlot × List ThreadStack

namespace RuntimeState

/-- The frames of the runtime at each position of the output. -/
def contents (state : RuntimeState) : List (Option (List Frame)) :=
  state.1.map RuntimeSlot.runtime ++ state.2.map fun stack => some stack.frames

/-- The frames of the runtime at a position of the output, if there are any. -/
def heldAt (state : RuntimeState) (i : ℕ) : Option (List Frame) := (contents state)[i]?.join

/-- The position that a runtime stack goes to: that of its thread, or else a new one at the
end. -/
def runtimePosition (state : RuntimeState) (stack : ThreadStack) : ℕ :=
  match state.1.findIdx? fun slot => slot.thread.ownsRuntime stack with
  | some i =>
    if (state.1[i]?.bind RuntimeSlot.runtime).isNone then i else state.1.length + state.2.length
  | none => state.1.length + state.2.length

variable {state : RuntimeState}

theorem length_contents (state : RuntimeState) :
    (contents state).length = state.1.length + state.2.length := by
  unfold contents
  rw [List.length_append, List.length_map, List.length_map]

theorem lt_length_of_heldAt {i : ℕ} {frames : List Frame} (h : heldAt state i = some frames) :
    i < state.1.length + state.2.length := by
  by_contra hi
  unfold heldAt at h
  rw [List.getElem?_eq_none (by rw [length_contents]; omega)] at h
  cases h

/-- Gives the slot at a position the frames of a stack. -/
def fill (state : RuntimeState) (i : ℕ) (stack : ThreadStack) : RuntimeState :=
  (state.1.modify i fun slot => { slot with runtime := some stack.frames }, state.2)

/-- Keeps a stack aside. -/
def putAside (state : RuntimeState) (stack : ThreadStack) : RuntimeState :=
  (state.1, state.2 ++ [stack])

/-- **What a step can do**: it fills the slot of the first thread that owns the stack, if
that is free, and else it keeps the stack aside. -/
theorem assignRuntime_cases (state : RuntimeState) (stack : ThreadStack) :
    (∃ i, state.1.findIdx? (fun slot => slot.thread.ownsRuntime stack) = some i ∧
      i < state.1.length ∧ heldAt state i = none ∧ runtimePosition state stack = i ∧
      assignRuntime state stack = fill state i stack) ∨
    ((∀ i, state.1.findIdx? (fun slot => slot.thread.ownsRuntime stack) = some i →
        heldAt state i ≠ none) ∧
      runtimePosition state stack = state.1.length + state.2.length ∧
      assignRuntime state stack = putAside state stack) := by
  obtain ⟨slots, aside⟩ := state
  unfold runtimePosition assignRuntime
  dsimp only
  cases hfind : slots.findIdx? fun slot => slot.thread.ownsRuntime stack with
  | none => exact .inr ⟨nofun, rfl, rfl⟩
  | some i =>
    obtain ⟨hi, -⟩ := List.findIdx?_eq_some_iff_getElem.1 hfind
    have hheld : heldAt (slots, aside) i = slots[i]?.bind RuntimeSlot.runtime := by
      unfold heldAt contents
      rw [List.getElem?_append_left (by simpa using hi), List.getElem?_map,
        List.getElem?_eq_getElem hi]
      rfl
    by_cases hfree : (slots[i]?.bind RuntimeSlot.runtime).isNone = true
    · exact .inl ⟨i, rfl, hi, hheld.trans (Option.isNone_iff_eq_none.1 hfree), if_pos hfree,
        if_pos hfree⟩
    · refine .inr ⟨fun j hj => ?_, if_neg hfree, if_neg hfree⟩
      rw [← Option.some.inj hj, hheld]
      exact fun hnone => hfree (Option.isNone_iff_eq_none.2 hnone)

theorem map_thread_fill (state : RuntimeState) (i : ℕ) (stack : ThreadStack) :
    (fill state i stack).1.map RuntimeSlot.thread = state.1.map RuntimeSlot.thread := by
  refine List.ext_getElem? fun j => ?_
  unfold fill
  rw [List.getElem?_map, List.getElem?_modify, List.getElem?_map]
  by_cases hij : i = j
  · simp only [if_pos hij, Option.map_eq_map, Option.map_map]
    rfl
  · simp [hij]

theorem map_thread_assignRuntime (state : RuntimeState) (stack : ThreadStack) :
    (assignRuntime state stack).1.map RuntimeSlot.thread = state.1.map RuntimeSlot.thread := by
  obtain ⟨i, -, -, -, -, h⟩ | ⟨-, -, h⟩ := assignRuntime_cases state stack
  · rw [h, map_thread_fill]
  · rw [h]
    rfl

theorem contents_fill (state : RuntimeState) (stack : ThreadStack) {i : ℕ}
    (hi : i < state.1.length) :
    contents (fill state i stack) = (contents state).set i (some stack.frames) := by
  have hslots : (fill state i stack).1.map RuntimeSlot.runtime =
      (state.1.map RuntimeSlot.runtime).set i (some stack.frames) := by
    refine List.ext_getElem? fun j => ?_
    unfold fill
    rw [List.getElem?_map, List.getElem?_modify, List.getElem?_set, List.getElem?_map]
    by_cases hij : i = j
    · subst hij
      simp [hi]
    · simp [hij]
  unfold contents
  rw [hslots, List.set_append_left _ _ (by simpa using hi)]
  rfl

theorem contents_putAside (state : RuntimeState) (stack : ThreadStack) :
    contents (putAside state stack) = contents state ++ [some stack.frames] := by
  unfold contents putAside
  rw [List.map_append, List.map_singleton, List.append_assoc]

/-- **A step fills one position, which was empty.** -/
theorem heldAt_assignRuntime (state : RuntimeState) (stack : ThreadStack) :
    heldAt state (runtimePosition state stack) = none ∧
      ∀ j, heldAt (assignRuntime state stack) j =
        if runtimePosition state stack = j then some stack.frames else heldAt state j := by
  have hlen := length_contents state
  obtain ⟨i, -, hi, hempty, hpos, h⟩ | ⟨-, hpos, h⟩ := assignRuntime_cases state stack
  · rw [hpos, h]
    refine ⟨hempty, fun j => ?_⟩
    unfold heldAt
    rw [contents_fill state stack hi, List.getElem?_set]
    split
    · rw [if_pos (by omega)]
      rfl
    · rfl
  · rw [hpos, h, ← hlen]
    refine ⟨?_, fun j => ?_⟩ <;> unfold heldAt
    · rw [List.getElem?_eq_none le_rfl]
      rfl
    · rw [contents_putAside, List.getElem?_append]
      rcases lt_trichotomy j (contents state).length with hj | rfl | hj
      · rw [if_pos hj, if_neg hj.ne']
      · simp
      · rw [if_neg (by omega), if_neg (by omega), List.getElem?_eq_none (by simp; omega),
          List.getElem?_eq_none (by omega)]

/-! ### A whole run -/

/-- The state after the first `n` runtime stacks. -/
def after (start : RuntimeState) (runtime : List ThreadStack) (n : ℕ) : RuntimeState :=
  (runtime.take n).foldl assignRuntime start

variable {start : RuntimeState} {runtime : List ThreadStack} {n k : ℕ}

/-- The position that the runtime stack of a number goes to. -/
def positionOf (start : RuntimeState) (runtime : List ThreadStack) (k : Fin runtime.length) : ℕ :=
  runtimePosition (after start runtime k) runtime[k]

theorem after_succ (start : RuntimeState) (hn : n < runtime.length) :
    after start runtime (n + 1) = assignRuntime (after start runtime n) runtime[n] := by
  unfold after
  rw [List.take_add_one, List.getElem?_eq_getElem hn, Option.toList_some, List.foldl_append,
    List.foldl_cons, List.foldl_nil]

theorem map_thread_after (start : RuntimeState) (runtime : List ThreadStack) (n : ℕ) :
    (after start runtime n).1.map RuntimeSlot.thread = start.1.map RuntimeSlot.thread := by
  unfold after
  generalize runtime.take n = done
  induction done generalizing start with
  | nil => rfl
  | cons stack rest ih => rw [List.foldl_cons, ih, map_thread_assignRuntime]

/-- **After each step, the stacks so far are held at their positions, and the other
positions are as they were.** -/
theorem heldAt_after (start : RuntimeState) (runtime : List ThreadStack) :
    ∀ n ≤ runtime.length,
      (∀ k : Fin runtime.length, k < n →
        heldAt (after start runtime n) (positionOf start runtime k) = some runtime[k].frames) ∧
      ∀ i, (∀ k : Fin runtime.length, k < n → positionOf start runtime k ≠ i) →
        heldAt (after start runtime n) i = heldAt start i := by
  intro n
  induction n with
  | zero => exact fun _ => ⟨fun k hk => absurd hk (Nat.not_lt_zero k), fun i _ => rfl⟩
  | succ n ih =>
    intro hn
    obtain ⟨hheld, hkept⟩ := ih (by omega)
    obtain ⟨hempty, hstep⟩ := heldAt_assignRuntime (after start runtime n) runtime[n]
    rw [after_succ start hn]
    refine ⟨fun k hk => ?_, fun i hi => ?_⟩
    · rw [hstep]
      rcases Nat.lt_succ_iff_lt_or_eq.1 hk with hlt | heq
      · -- an earlier stack holds its position, which so is not the new one
        have hne : runtimePosition (after start runtime n) runtime[n] ≠
            positionOf start runtime k := by
          intro h
          rw [h, hheld k hlt] at hempty
          cases hempty
        rw [if_neg hne, hheld k hlt]
      · obtain rfl : k = ⟨n, hn⟩ := Fin.ext heq
        exact if_pos rfl
    · have hne : runtimePosition (after start runtime n) runtime[n] ≠ i :=
        hi ⟨n, hn⟩ (Nat.lt_succ_self n)
      rw [hstep, if_neg hne]
      exact hkept i fun k hk => hi k (Nat.lt_succ_of_lt hk)

/-- **No two stacks go to one position.** -/
theorem positionOf_injective (start : RuntimeState) (runtime : List ThreadStack) :
    Function.Injective (positionOf start runtime) := by
  have hne : ∀ j k : Fin runtime.length, j < k →
      positionOf start runtime j ≠ positionOf start runtime k := by
    intro j k hjk h
    have hheld := (heldAt_after start runtime k k.isLt.le).1 j hjk
    have hempty := (heldAt_assignRuntime (after start runtime k) runtime[k]).1
    rw [h] at hheld
    exact absurd (hheld.symm.trans hempty) (by simp)
  intro j k h
  rcases lt_trichotomy j k with hjk | hjk | hjk
  · exact absurd h (hne j k hjk)
  · exact hjk
  · exact absurd h.symm (hne k j hjk)

end RuntimeState

/-! ## The threads of a process -/

open RuntimeState

/-- The slots of threads before any runtime stack is assigned. -/
def emptySlots (threads : List Thread) : RuntimeState :=
  (threads.map fun t => { thread := t }, [])

theorem heldAt_emptySlots (threads : List Thread) (i : ℕ) :
    heldAt (emptySlots threads) i = none := by
  unfold heldAt contents emptySlots
  rw [List.map_nil, List.append_nil, List.map_map, List.getElem?_map]
  cases threads[i]? <;> rfl

/-- The output that a state of slots and stacks kept aside leads to. -/
def mergedThreads (layout : StackLayout) (state : RuntimeState) : List Thread :=
  (state.1.map fun slot =>
    { slot.thread with
      callStack := (layout.merge slot.thread.callStack (slot.runtime.getD [])).frames }) ++
  state.2.map fun stack =>
    { Thread.ofStack stack with callStack := (layout.merge [] stack.frames).frames }

theorem correlate_eq (layout : StackLayout) (threads : List Thread)
    (native runtime : List ThreadStack) :
    correlate layout threads native runtime = mergedThreads layout
      (after (emptySlots (native.foldl attachNative threads)) runtime runtime.length) := by
  unfold after
  rw [List.take_length]
  rfl

/-- **Each thread of the output has its own frames merged with those of the runtime at its
position.** -/
theorem callStack_mergedThreads (layout : StackLayout) (state : RuntimeState) {i : ℕ}
    {thread : Thread} (h : (mergedThreads layout state)[i]? = some thread) :
    thread.callStack = (layout.merge (callStackAt (state.1.map RuntimeSlot.thread) i)
      ((heldAt state i).getD [])).frames := by
  unfold mergedThreads at h
  unfold callStackAt heldAt contents
  rcases lt_or_ge i state.1.length with hi | hi
  · rw [List.getElem?_append_left (by simpa using hi), List.getElem?_map,
      List.getElem?_eq_getElem hi] at h
    rw [List.getElem?_append_left (by simpa using hi), List.getElem?_map, List.getElem?_map,
      List.getElem?_eq_getElem hi, ← Option.some.inj h]
    rfl
  · -- a thread made of a stack that was kept aside has no other frames
    rw [List.getElem?_append_right (by simpa using hi), List.length_map] at h
    obtain ⟨stack, hstack, rfl⟩ := Option.map_eq_some_iff.1 (List.getElem?_map ▸ h)
    rw [List.getElem?_append_right (by simpa using hi), List.length_map, List.getElem?_map,
      List.getElem?_map, List.getElem?_eq_none hi, hstack]
    rfl

theorem length_mergedThreads (layout : StackLayout) (state : RuntimeState) :
    (mergedThreads layout state).length = state.1.length + state.2.length := by
  unfold mergedThreads
  rw [List.length_append, List.length_map, List.length_map]

theorem map_thread_after_emptySlots (threads : List Thread) (runtime : List ThreadStack) (n : ℕ) :
    (after (emptySlots threads) runtime n).1.map RuntimeSlot.thread = threads := by
  rw [map_thread_after]
  unfold emptySlots
  rw [List.map_map]
  exact List.map_id _

/-- **Runtime stacks go to threads one to one.** Stack `k` is merged into thread
`position k` of the output and into no other; `native` are the frames that the threads have
otherwise. -/
structure Attributes (layout : StackLayout) (native : ℕ → List Frame)
    (runtime : List ThreadStack) (out : List Thread)
    (position : Fin runtime.length → Fin out.length) : Prop where
  injective : Function.Injective position
  merged : ∀ k, out[position k].callStack =
    (layout.merge (native (position k)) runtime[k].frames).frames
  alone : ∀ i : Fin out.length, (∀ k, position k ≠ i) →
    out[i].callStack = (layout.merge (native i) []).frames

/-- The positions of the runtime stacks attribute them to the threads of the output. -/
theorem attributes_positionOf (layout : StackLayout) (threads : List Thread)
    (native runtime : List ThreadStack) :
    ∃ position : Fin runtime.length → Fin (correlate layout threads native runtime).length,
      (∀ k, (position k : ℕ) =
        positionOf (emptySlots (native.foldl attachNative threads)) runtime k) ∧
      Attributes layout (nativeFramesAt threads native) runtime
        (correlate layout threads native runtime) position := by
  set start := emptySlots (native.foldl attachNative threads) with hstart
  obtain ⟨hheld, hkept⟩ := heldAt_after start runtime runtime.length le_rfl
  have hthreads := map_thread_after_emptySlots (native.foldl attachNative threads) runtime
    runtime.length
  have hcallStack : ∀ {i : ℕ} {thread : Thread},
      (correlate layout threads native runtime)[i]? = some thread →
      thread.callStack = (layout.merge (nativeFramesAt threads native i)
        ((heldAt (after start runtime runtime.length) i).getD [])).frames := by
    intro i thread hget
    rw [correlate_eq] at hget
    rw [callStack_mergedThreads layout _ hget, hthreads, callStackAt_foldl_attachNative]
  have hlt : ∀ k, positionOf start runtime k <
      (correlate layout threads native runtime).length := by
    intro k
    rw [correlate_eq, length_mergedThreads]
    exact lt_length_of_heldAt (hheld k k.isLt)
  refine ⟨fun k => ⟨positionOf start runtime k, hlt k⟩, fun k => rfl, ?_, fun k => ?_,
    fun i hi => ?_⟩
  · intro j k h
    exact positionOf_injective start runtime (congrArg Fin.val h)
  · have h := hcallStack (List.getElem?_eq_getElem (hlt k))
    rw [hheld k k.isLt] at h
    exact h
  · have h := hcallStack (List.getElem?_eq_getElem i.isLt)
    rw [hkept i fun k _ hk => hi k (Fin.ext hk), heldAt_emptySlots] at h
    exact h

/-- Merging changes the frames of a thread and nothing else. -/
theorem mergedThreads_continues (layout : StackLayout) {state : RuntimeState} {i : ℕ} {t : Thread}
    (h : (state.1.map RuntimeSlot.thread)[i]? = some t) :
    ∃ t', (mergedThreads layout state)[i]? = some t' ∧ t'.Continues t := by
  rw [List.getElem?_map] at h
  obtain ⟨slot, hslot, rfl⟩ := Option.map_eq_some_iff.1 h
  have hi : i < state.1.length := (List.getElem?_eq_some_iff.1 hslot).1
  unfold mergedThreads
  rw [List.getElem?_append_left (by simpa using hi), List.getElem?_map, hslot]
  exact ⟨_, rfl, rfl, fun _ h => h, rfl, rfl, rfl, rfl, rfl, rfl, rfl⟩

/-- The threads of the list stay in front, and stay what they were. -/
theorem correlate_continues (layout : StackLayout) {threads : List Thread}
    (native runtime : List ThreadStack) {i : ℕ} {t : Thread} (h : threads[i]? = some t) :
    ∃ t', (correlate layout threads native runtime)[i]? = some t' ∧ t'.Continues t := by
  obtain ⟨t₁, h₁, hc₁⟩ := foldl_attachNative_continues native h
  rw [← map_thread_after_emptySlots (native.foldl attachNative threads) runtime runtime.length]
    at h₁
  obtain ⟨t₂, h₂, hc₂⟩ := mergedThreads_continues layout h₁
  rw [correlate_eq]
  exact ⟨t₂, h₂, hc₂.trans hc₁⟩

/-- **Correlation attributes stacks to threads**, whatever ids there are: the threads of the
list come first and stay what they were, and each runtime stack is merged into one thread,
no two into the same. -/
theorem correlate_attributes (layout : StackLayout) (threads : List Thread)
    (native runtime : List ThreadStack) :
    List.Forall₂ Thread.Continues
      ((correlate layout threads native runtime).take threads.length) threads ∧
    ∃ position, Attributes layout (nativeFramesAt threads native) runtime
      (correlate layout threads native runtime) position := by
  refine ⟨List.forall₂_iff_get.2 ⟨?_, fun i hi hi' => ?_⟩, ?_⟩
  · rw [List.length_take, min_eq_left_iff]
    by_contra hshort
    -- otherwise a thread of the list would be missing
    obtain ⟨t, ht, -⟩ := correlate_continues layout native runtime
      (List.getElem?_eq_getElem (not_le.1 hshort))
    rw [List.getElem?_eq_none le_rfl] at ht
    cases ht
  · obtain ⟨t, ht, hc⟩ := correlate_continues layout native runtime (List.getElem?_eq_getElem hi')
    rw [List.get_eq_getElem, List.get_eq_getElem, List.getElem_take,
      (List.getElem?_eq_some_iff.1 ht).2]
    exact hc
  · obtain ⟨position, -, h⟩ := attributes_positionOf layout threads native runtime
    exact ⟨position, h⟩

end Postmortem
