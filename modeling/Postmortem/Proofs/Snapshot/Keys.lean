import Mathlib.Tactic

/-!
# Lists with keys

Rows, threads and modules are told apart by keys. Something is found under the key of every entry
(`exists_find?_key`). Where the keys of a list are unique, it is the entry itself
(`find?_key_of_mem`), and where two lists have unique keys, what depends on the key alone can be
collected along either of them (`filterMap_perm_of_keys`).

A comparison of two lists depends on the key alone if it looks each key up on both sides
(`changeUnder`), so its direction decides only about the order of the changes and about which
side is before and which is after (`filterMap_changeUnder_exchange`).
-/

namespace Postmortem

variable {α κ γ : Type}

/-- Some entry is found under the key of every entry. -/
theorem exists_find?_key [BEq κ] [LawfulBEq κ] (key : α → κ) {entries : List α} {x : α}
    (hx : x ∈ entries) : ∃ first, entries.find? (fun y => key y == key x) = some first := by
  rw [← Option.isSome_iff_exists, List.find?_isSome]
  exact ⟨x, hx, beq_self_eq_true _⟩

/-- With unique keys, an entry is what is found under its key. -/
theorem find?_key_of_mem [BEq κ] [LawfulBEq κ] (key : α → κ) {entries : List α}
    (h : (entries.map key).Nodup) {x : α} (hx : x ∈ entries) :
    entries.find? (fun y => key y == key x) = some x := by
  obtain ⟨y, hy⟩ := exists_find?_key key hx
  have hkey : key y = key x := by simpa using List.find?_some hy
  rw [hy, List.inj_on_of_nodup_map h (List.mem_of_find?_eq_some hy) hx hkey]

/-- Two lists of keys give the same values if they have the keys that have a value in common. -/
theorem filterMap_perm_of_keys {ks ls : List κ} (hks : ks.Nodup) (hls : ls.Nodup)
    {value? : κ → Option γ} (h : ∀ k, (value? k).isSome → (k ∈ ks ↔ k ∈ ls)) :
    (ks.filterMap value?).Perm (ls.filterMap value?) := by
  have hcommon : (ks.filter fun k => (value? k).isSome).Perm
      (ls.filter fun k => (value? k).isSome) := by
    rw [List.perm_ext_iff_of_nodup (hks.filter _) (hls.filter _)]
    intro k
    simp only [List.mem_filter]
    exact and_congr_left (h k)
  have hvalues : ∀ keys : List κ,
      (keys.filter fun k => (value? k).isSome).filterMap value? = keys.filterMap value? := by
    intro keys
    rw [List.filterMap_filter]
    refine List.filterMap_congr fun k _ => ?_
    cases hk : value? k <;> simp
  have hperm := hcommon.filterMap value?
  rwa [hvalues, hvalues] at hperm

section Changes

variable [BEq κ] (key : α → κ) (change? : α → α → Option γ)

/-- What changed between the first entries of two lists that have a key. -/
def changeUnder (a b : List α) (k : κ) : Option γ :=
  (a.find? fun x => key x == k).bind fun before =>
    (b.find? fun x => key x == k).bind (change? before)

variable {key change?} [LawfulBEq κ] {a b : List α}

/-- **What changed under a key is the same in both directions**, if that is so for any two
entries with one key. -/
theorem changeUnder_exchange {reverse : γ → γ}
    (h : ∀ {before after}, key before = key after →
      change? before after = (change? after before).map reverse) (a b : List α) (k : κ) :
    changeUnder key change? a b k = (changeUnder key change? b a k).map reverse := by
  unfold changeUnder
  cases ha : a.find? fun x => key x == k with
  | none => cases b.find? fun x => key x == k <;> rfl
  | some before =>
    cases hb : b.find? fun x => key x == k with
    | none => rfl
    | some after =>
      have hbefore : key before = k := by simpa using List.find?_some ha
      have hafter : key after = k := by simpa using List.find?_some hb
      exact h (hbefore.trans hafter.symm)

/-- Only keys of both lists have a change. -/
theorem mem_keys_of_changeUnder {k : κ} (h : (changeUnder key change? a b k).isSome) :
    k ∈ a.map key ∧ k ∈ b.map key := by
  have hmem : ∀ {entries : List α} {x : α}, (entries.find? fun x => key x == k) = some x →
      k ∈ entries.map key := fun hx =>
    List.mem_map.2 ⟨_, List.mem_of_find?_eq_some hx, by simpa using List.find?_some hx⟩
  obtain ⟨change, hchange⟩ := Option.isSome_iff_exists.1 h
  obtain ⟨before, hbefore, hrest⟩ := Option.bind_eq_some_iff.1 hchange
  obtain ⟨after, hafter, -⟩ := Option.bind_eq_some_iff.1 hrest
  exact ⟨hmem hbefore, hmem hafter⟩

/-- **Changes under the keys of one list are those under the keys of the other, turned round.** -/
theorem filterMap_changeUnder_exchange {reverse : γ → γ}
    (h : ∀ {before after}, key before = key after →
      change? before after = (change? after before).map reverse)
    {ks ls : List κ} (hks : ks.Nodup) (hls : ls.Nodup) (ha : ∀ k, k ∈ ks ↔ k ∈ a.map key)
    (hb : ∀ k, k ∈ ls ↔ k ∈ b.map key) :
    (ls.filterMap (changeUnder key change? a b)).Perm
      ((ks.filterMap (changeUnder key change? b a)).map reverse) := by
  have hturned : (ks.filterMap (changeUnder key change? b a)).map reverse =
      ks.filterMap (changeUnder key change? a b) := by
    rw [List.map_filterMap]
    exact List.filterMap_congr fun k _ => (changeUnder_exchange h a b k).symm
  rw [hturned]
  refine filterMap_perm_of_keys hls hks fun k hk => ?_
  obtain ⟨hina, hinb⟩ := mem_keys_of_changeUnder hk
  exact iff_of_true ((hb k).2 hinb) ((ha k).2 hina)

end Changes

end Postmortem
