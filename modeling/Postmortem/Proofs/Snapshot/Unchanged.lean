import Postmortem.Proofs.Heap.Unchanged
import Postmortem.Proofs.Snapshot.Mirror

/-!
# A snapshot compared with itself

Every entry of a snapshot is found in the same snapshot, so that nothing came and nothing went. A
type is compared by the sums of its rows and a module by the first one of its key, on both sides
alike. But every thread is compared with the first one of its key, so that threads that share a
key are compared with one another, as the dead threads of the runtime, which all have the OS id 0.

* `stateChanges_self_eq_nil_iff`: when no thread is reported as changed.
* `compareSnapshots_self_iff`: **a snapshot compared with itself shows no change iff threads with
  one key look alike.**
-/

namespace Postmortem

/-! ## Threads -/

/-- **Threads with one key look alike**: they have one state and one innermost function. -/
def KeysTellState (threads : List Thread) : Prop :=
  ∀ t ∈ threads, ∀ u ∈ threads, t.identityKey = u.identityKey →
    t.state = u.state ∧ t.topFunction = u.topFunction

theorem threadsMissingFrom_self (threads : List Thread) :
    threadsMissingFrom threads threads = [] := by
  unfold threadsMissingFrom
  rw [List.filter_eq_nil_iff]
  intro t ht
  simp only [Bool.not_eq_true', Bool.not_eq_false, List.any_eq_true, beq_iff_eq]
  exact ⟨t, ht, rfl⟩

theorem Thread.change?_eq_none_iff {before after : Thread} :
    before.change? after = none ↔
      before.state = after.state ∧ before.topFunction = after.topFunction := by
  unfold change?
  simp [not_or]

/-- **No thread is reported as changed iff threads with one key look alike.** -/
theorem stateChanges_self_eq_nil_iff (threads : List Thread) :
    (diffThreads threads threads).stateChanges = [] ↔ KeysTellState threads := by
  have hchanges : (diffThreads threads threads).stateChanges = [] ↔
      ∀ t ∈ threads, ∀ first, threads.find? (fun u => u.identityKey == t.identityKey) = some first →
        first.state = t.state ∧ first.topFunction = t.topFunction := by
    unfold diffThreads
    simp only [List.filterMap_eq_nil_iff, Option.bind_eq_none_iff, Thread.change?_eq_none_iff]
  rw [hchanges]
  constructor
  · intro h t ht u hu hkey
    obtain ⟨first, hfirst⟩ := exists_find?_key Thread.identityKey ht
    -- both look like the first thread with their key
    have hlike := h t ht first hfirst
    have hlike' := h u hu first (hkey ▸ hfirst)
    exact ⟨hlike.1.symm.trans hlike'.1, hlike.2.symm.trans hlike'.2⟩
  · intro h t ht first hfirst
    have hkey : first.identityKey = t.identityKey := by simpa using List.find?_some hfirst
    exact h first (List.mem_of_find?_eq_some hfirst) t ht hkey

/-! ## Modules -/

/-- Among distinct modules, every one is found under its key. -/
theorem filter_distinctModules_self (modules : List LoadedModule) :
    (distinctModules modules).filter (fun m => (findModule? modules m.key).isNone) = [] := by
  rw [List.filter_eq_nil_iff]
  intro m hm
  simp [mem_distinctModules.1 hm]

theorem knownDifferent_self {α : Type} [BEq α] [LawfulBEq α] (x : Option α) :
    knownDifferent x x = false := by
  unfold knownDifferent
  simp

theorem changed_self (modules : List LoadedModule) :
    (diffModules modules modules).changed = [] := by
  unfold diffModules
  simp only [List.filter_eq_nil_iff, List.mem_filterMap, Option.map_eq_some_iff]
  rintro change ⟨m, hm, old, hold, rfl⟩
  -- the first module with a key is compared with itself
  obtain rfl : m = old := Option.some.inj ((mem_distinctModules.1 hm).symm.trans hold)
  simp [ModuleChange.versionChanged, ModuleChange.rebased, ModuleChange.between,
    knownDifferent_self]

/-! ## Snapshots -/

/-- **A comparison shows that nothing came and nothing went**: no thread, module or type is new or
gone, no module has changed, no type has grown, and no more threads wait. -/
structure SnapshotDiff.SameContents (diff : SnapshotDiff) : Prop where
  newThreads : diff.threads.newThreads = []
  terminatedThreads : diff.threads.terminatedThreads = []
  potentialDeadlock : diff.potentialDeadlock = false
  loaded : diff.modules.loaded = []
  unloaded : diff.modules.unloaded = []
  changed : diff.modules.changed = []
  newTypes : ∀ heap ∈ diff.heap, heap.newTypes = []
  removedTypes : ∀ heap ∈ diff.heap, heap.removedTypes = []
  growth : ∀ heap ∈ diff.heap, heap.growth = []

/-- **A comparison shows no change**: nothing came or went, and no thread has changed. -/
structure SnapshotDiff.NoChange (diff : SnapshotDiff) : Prop extends diff.SameContents where
  stateChanges : diff.threads.stateChanges = []

/-- A heap is compared if there is one. -/
theorem heap_self (thresholds : LeakThresholds) (s : Snapshot) :
    (compareSnapshots thresholds s s).heap =
      s.heap.map fun heap => diffHeap thresholds heap heap := by
  unfold compareSnapshots
  cases s.heap <;> rfl

theorem compareSnapshots_self_sameContents (thresholds : LeakThresholds) (s : Snapshot) :
    (compareSnapshots thresholds s s).SameContents := by
  have hheap : ∀ heap ∈ (compareSnapshots thresholds s s).heap,
      ∃ h, heap = diffHeap thresholds h h := by
    intro heap hmem
    rw [heap_self] at hmem
    obtain ⟨h, -, rfl⟩ := Option.map_eq_some_iff.1 hmem
    exact ⟨h, rfl⟩
  have hthreads : (threadsMissingFrom s.threads s.threads).map Thread.summary = [] := by
    rw [threadsMissingFrom_self, List.map_nil]
  refine ⟨hthreads, hthreads, decide_eq_false (lt_irrefl _), filter_distinctModules_self _,
    filter_distinctModules_self _, changed_self _, ?_, ?_, ?_⟩
  · intro heap hmem
    obtain ⟨h, rfl⟩ := hheap heap hmem
    exact newTypes_self thresholds h
  · intro heap hmem
    obtain ⟨h, rfl⟩ := hheap heap hmem
    exact removedTypes_self thresholds h
  · intro heap hmem
    obtain ⟨h, rfl⟩ := hheap heap hmem
    exact growth_self thresholds h

/-- **A snapshot compared with itself shows no change iff threads with one key look alike.**
Whatever the snapshot holds, nothing came and nothing went. -/
theorem compareSnapshots_self_iff (thresholds : LeakThresholds) (s : Snapshot) :
    (compareSnapshots thresholds s s).SameContents ∧
      ((compareSnapshots thresholds s s).NoChange ↔ KeysTellState s.threads) := by
  have hsame := compareSnapshots_self_sameContents thresholds s
  have hiff := stateChanges_self_eq_nil_iff s.threads
  exact ⟨hsame, fun h => hiff.1 h.stateChanges, fun h => ⟨hsame, hiff.2 h⟩⟩

/-- Two dead threads of the runtime, one of which is aborted. -/
def deadThreads : Snapshot := .ofListings "" (
  "ID OSID ThreadOBJ State\n" ++
  "XXXX 5 0 01B30000 800 Preemptive 0:0 0 0 Ukn\n" ++
  "XXXX 7 0 01B40000 801 Preemptive 0:0 0 0 Ukn\n") ""

/-- The second thread is taken for a change of the first one. -/
theorem not_noChange_of_deadThreads :
    ¬ ∀ (thresholds : LeakThresholds) (s : Snapshot),
      (compareSnapshots thresholds s s).NoChange := by
  intro h
  exact absurd (h {} deadThreads).stateChanges (by decide +kernel)

end Postmortem
