import Postmortem.Proofs.Snapshot.Keys
import Postmortem.Snapshot.Comparison

/-!
# Snapshots compared backward

Both comparisons go through the second snapshot and look each entry up in the first one. So
what they list as changed is, key by key, what is found under the key in both snapshots
(`changeUnder`), and that is the same in both directions, with before and after exchanged. The
order of the entries is that of the keys in the second snapshot.

Among modules the first one of each key counts on either side (`mem_distinctModules`). Among
threads the first one of the first snapshot counts, but all of the second one, so that the
keys of threads have to be unique.

* `stateChanges_exchange`, `changed_exchange`: the changes of threads and of modules.
* `diffs_mirror`: **comparing backward exchanges what came and what went, and turns every
  change round.**
-/

namespace Postmortem

/-! ## Threads -/

/-- The change seen backward. -/
def ThreadChange.reverse (c : ThreadChange) : ThreadChange :=
  ⟨c.key, c.afterState, c.beforeState, c.afterTop, c.beforeTop⟩

theorem Thread.change?_exchange {before after : Thread}
    (h : before.identityKey = after.identityKey) :
    before.change? after = (after.change? before).map ThreadChange.reverse := by
  have hdiffer : (before.state != after.state || before.topFunction != after.topFunction) =
      (after.state != before.state || after.topFunction != before.topFunction) := by
    rw [bne_comm, @bne_comm _ _ _ before.topFunction]
  unfold change?
  rw [hdiffer, h]
  split <;> rfl

/-- With unique keys in the second list, the changes are those of its keys. -/
theorem stateChanges_diffThreads (a : List Thread) {b : List Thread}
    (hb : (b.map Thread.identityKey).Nodup) :
    (diffThreads a b).stateChanges =
      (b.map Thread.identityKey).filterMap
        (changeUnder Thread.identityKey Thread.change? a b) := by
  rw [List.filterMap_map]
  refine List.filterMap_congr fun after hafter => ?_
  unfold Function.comp changeUnder
  rw [find?_key_of_mem Thread.identityKey hb hafter]
  rfl

/-- **A comparison of threads is another one seen backward**, its changes apart: threads that came
and went are exchanged, and so are the numbers of waiting threads. -/
structure ThreadDiff.Mirrors (diff other : ThreadDiff) : Prop where
  newThreads : diff.newThreads = other.terminatedThreads
  terminatedThreads : diff.terminatedThreads = other.newThreads
  baselineWaiting : diff.baselineWaiting = other.comparisonWaiting
  comparisonWaiting : diff.comparisonWaiting = other.baselineWaiting

/-- Changes are turned round if keys are unique. -/
theorem stateChanges_exchange {a b : List Thread} (ha : (a.map Thread.identityKey).Nodup)
    (hb : (b.map Thread.identityKey).Nodup) :
    (diffThreads a b).stateChanges.Perm
      ((diffThreads b a).stateChanges.map ThreadChange.reverse) := by
  rw [stateChanges_diffThreads a hb, stateChanges_diffThreads b ha]
  exact filterMap_changeUnder_exchange Thread.change?_exchange ha hb (fun _ => Iff.rfl)
    fun _ => Iff.rfl

/-! ## Modules -/

/-- A module is kept if it is the first one with its key. -/
theorem mem_distinctModules {modules : List LoadedModule} {x : LoadedModule} :
    x ∈ distinctModules modules ↔ findModule? modules x.key = some x := by
  induction modules with
  | nil => simp [distinctModules, findModule?]
  | cons m ms ih =>
    unfold distinctModules
    unfold findModule? at ih ⊢
    rw [List.mem_cons, List.mem_filter, ih]
    by_cases hkey : m.key = x.key
    · -- the first module has this key, and the filter drops all others that have it
      rw [List.find?_cons_of_pos (by simpa using hkey)]
      simp [hkey, eq_comm]
    · have hne : x ≠ m := fun h => hkey (h ▸ rfl)
      have hkey' : x.key ≠ m.key := fun h => hkey h.symm
      rw [List.find?_cons_of_neg (by simpa using hkey)]
      simp [hne, hkey']

/-- No key is listed twice. -/
theorem nodup_distinctModules (modules : List LoadedModule) :
    ((distinctModules modules).map LoadedModule.key).Nodup := by
  induction modules with
  | nil => exact List.nodup_nil
  | cons m ms ih =>
    unfold distinctModules
    rw [List.map_cons, List.nodup_cons]
    refine ⟨fun h => ?_, ih.sublist (List.filter_sublist.map _)⟩
    obtain ⟨x, hx, hkey⟩ := List.mem_map.1 h
    simpa [hkey] using (List.mem_filter.1 hx).2

/-- The distinct modules have the keys of all modules. -/
theorem mem_map_key_distinctModules (modules : List LoadedModule) (key : String) :
    key ∈ (distinctModules modules).map LoadedModule.key ↔
      key ∈ modules.map LoadedModule.key := by
  constructor
  · intro h
    obtain ⟨x, hx, rfl⟩ := List.mem_map.1 h
    exact List.mem_map_of_mem (List.mem_of_find?_eq_some (mem_distinctModules.1 hx))
  · intro h
    obtain ⟨x, hx, rfl⟩ := List.mem_map.1 h
    obtain ⟨first, hfirst⟩ : ∃ first, findModule? modules x.key = some first :=
      exists_find?_key LoadedModule.key hx
    have hkey : first.key = x.key := by simpa using List.find?_some hfirst
    exact List.mem_map.2 ⟨first, mem_distinctModules.2 (hkey.symm ▸ hfirst), hkey⟩

theorem knownDifferent_comm {α : Type} [BEq α] [LawfulBEq α] (x y : Option α) :
    knownDifferent x y = knownDifferent y x := by
  unfold knownDifferent
  rw [Bool.and_comm x.isSome, bne_comm]

namespace ModuleChange

/-- The change seen backward. -/
def reverse (c : ModuleChange) : ModuleChange :=
  ⟨c.name, c.versionAfter, c.versionBefore, c.baseAfter, c.baseBefore⟩

/-- The change with the key of the module for its name, however the name is spelled. -/
def normalized (c : ModuleChange) : ModuleChange := { c with name := moduleKey c.name }

/-- Whether anything changed. -/
def isChange (c : ModuleChange) : Bool := c.versionChanged || c.rebased

theorem isChange_reverse (c : ModuleChange) : c.reverse.isChange = c.isChange := by
  unfold isChange versionChanged rebased reverse
  rw [knownDifferent_comm, @knownDifferent_comm _ _ _ c.baseAfter]

end ModuleChange

/-- What changed between two modules, if anything did. -/
def ModuleChange.between? (before after : LoadedModule) : Option ModuleChange :=
  if (between before after).isChange then some (between before after).normalized else none

theorem ModuleChange.between?_exchange {before after : LoadedModule}
    (h : before.key = after.key) :
    between? before after = (between? after before).map reverse := by
  have hisChange : (between before after).isChange = (between after before).isChange :=
    isChange_reverse (between after before)
  have hreverse : (between before after).normalized = (between after before).normalized.reverse :=
    congrArg (fun name => ModuleChange.mk name before.version after.version before.baseAddress
      after.baseAddress) h.symm
  unfold between?
  rw [hisChange, hreverse]
  split <;> rfl

/-- The changes, named by keys, are those of the keys of the second list. -/
theorem map_normalized_changed (m n : List LoadedModule) :
    (diffModules m n).changed.map ModuleChange.normalized =
      ((distinctModules n).map LoadedModule.key).filterMap
        (changeUnder LoadedModule.key ModuleChange.between? m n) := by
  unfold diffModules
  rw [List.filter_filterMap, List.map_filterMap, List.filterMap_map]
  refine List.filterMap_congr fun after hafter => ?_
  have hfirst := mem_distinctModules.1 hafter
  unfold findModule? at hfirst ⊢
  unfold Function.comp changeUnder
  rw [hfirst]
  cases m.find? fun x => x.key == after.key with
  | none => rfl
  | some before =>
    show ((some (ModuleChange.between before after)).filter ModuleChange.isChange).map
      ModuleChange.normalized = ModuleChange.between? before after
    rw [Option.filter_some]
    unfold ModuleChange.between?
    split <;> rfl

/-- **A comparison of modules is another one seen backward**: modules that were loaded and
unloaded are exchanged, and the changes of each key are turned round. -/
structure ModuleDiff.Mirrors (diff other : ModuleDiff) : Prop where
  loaded : diff.loaded = other.unloaded
  unloaded : diff.unloaded = other.loaded
  changed : (diff.changed.map ModuleChange.normalized).Perm
    (other.changed.map fun c => c.normalized.reverse)

/-- Changes are turned round, whether or not keys are unique. -/
theorem changed_exchange (m n : List LoadedModule) :
    ((diffModules m n).changed.map ModuleChange.normalized).Perm
      ((diffModules n m).changed.map fun c => c.normalized.reverse) := by
  have hturned : ((diffModules n m).changed.map fun c => c.normalized.reverse) =
      ((diffModules n m).changed.map ModuleChange.normalized).map ModuleChange.reverse := by
    rw [List.map_map]
    rfl
  rw [hturned, map_normalized_changed, map_normalized_changed]
  exact filterMap_changeUnder_exchange ModuleChange.between?_exchange (nodup_distinctModules m)
    (nodup_distinctModules n) (mem_map_key_distinctModules m) (mem_map_key_distinctModules n)

/-! ## Snapshots -/

/-- **Comparing backward exchanges what came and what went, and turns every change round.** All
of it holds for any threads and modules, except that the changes of threads are told apart by
keys and so need them to be unique on both sides. -/
theorem diffs_mirror (a b : List Thread) (m n : List LoadedModule) :
    (diffThreads a b).Mirrors (diffThreads b a) ∧
      ((a.map Thread.identityKey).Nodup → (b.map Thread.identityKey).Nodup →
        (diffThreads a b).stateChanges.Perm
          ((diffThreads b a).stateChanges.map ThreadChange.reverse)) ∧
      (diffModules m n).Mirrors (diffModules n m) :=
  ⟨⟨rfl, rfl, rfl, rfl⟩, stateChanges_exchange, ⟨rfl, rfl, changed_exchange m n⟩⟩

/-- One thread stays and changes, one goes and one comes. A module is loaded twice under two
spellings, and its first copies have been moved. -/
theorem diffs_mirror_spellings :
    let a : List Thread := [{ id := .ofHex 1, state := "running" }, { id := .ofHex 2 }]
    let b : List Thread := [{ id := .ofHex 3 }, { id := .ofHex 1, state := "waiting" }]
    let m : List LoadedModule := [{ name := "/lib/App.dll", baseAddress := some ⟨0x1000⟩ },
      { name := "app.dll", baseAddress := some ⟨0x9000⟩ }]
    let n : List LoadedModule := [{ name := "app.dll", baseAddress := some ⟨0x2000⟩ },
      { name := "App.dll" }, { name := "core.dll" }]
    (a.map Thread.identityKey).Nodup ∧ (b.map Thread.identityKey).Nodup ∧
      (diffThreads a b).stateChanges = [⟨"1", "running", "waiting", none, none⟩] ∧
      (diffModules m n).changed =
        [⟨"app.dll", none, none, some ⟨0x1000⟩, some ⟨0x2000⟩⟩] ∧
      (diffThreads a b).Mirrors (diffThreads b a) ∧
      (diffThreads a b).stateChanges.Perm
        ((diffThreads b a).stateChanges.map ThreadChange.reverse) ∧
      (diffModules m n).Mirrors (diffModules n m) := by
  intro a b m n
  have ha : (a.map Thread.identityKey).Nodup := by decide +kernel
  have hb : (b.map Thread.identityKey).Nodup := by decide +kernel
  obtain ⟨hthreads, hchanges, hmodules⟩ := diffs_mirror a b m n
  exact ⟨ha, hb, by decide +kernel, by decide +kernel, hthreads, hchanges ha hb, hmodules⟩

end Postmortem
