import Mathlib.Tactic
import Postmortem.Exception.Chain

/-!
# Walks along exception chains

The printed sections and the inspected objects feed one walk, which either of them may
end. `Live` is the invariant of a walk that goes on: the addresses it must not meet again
are exactly those of its nodes. `Sound` is what remains true when it ends.

* `Live.grow`: a new address adds one node to a live walk.
* `Live.endAt`: an address seen before ends it with a marker.
* `Live.addRecords`, `Live.follow`: so both loops end soundly.
* `ofText_wellFormed`: **a chain is no longer than it may be, its nodes are numbered from
  the outside in, no address occurs twice, and only the innermost node can be a cycle
  marker, which points back into the chain.**
-/

namespace Postmortem

/-! ## Nodes -/

namespace ExceptionNode

variable (node : ExceptionNode) (record : ExceptionRecord) (tree : ObjectTree) (depth : ℕ)

@[simp] theorem depth_complete : (node.complete tree).depth = node.depth := rfl

@[simp] theorem address_complete : (node.complete tree).address = node.address := rfl

@[simp] theorem isCycle_complete : (node.complete tree).isCycle = node.isCycle := rfl

@[simp] theorem depth_ofRecord : (ofRecord record depth).depth = depth := rfl

@[simp] theorem address_ofRecord : (ofRecord record depth).address = record.address := rfl

@[simp] theorem isCycle_ofRecord : (ofRecord record depth).isCycle = false := rfl

end ExceptionNode

namespace ChainWalk

variable (introspector : Introspector) (limits : InspectLimits) {maxDepth : ℕ}
variable {walk walk' : ChainWalk}

/-- The addresses of the nodes that have one, outermost first. -/
def addresses (walk : ChainWalk) : List Address := walk.nodes.filterMap ExceptionNode.address

/-- **One step inward**: the walk has one more node, with the given address. -/
structure Grows (walk walk' : ChainWalk) (address : Option Address) : Prop where
  nodes : ∃ node, walk'.nodes = walk.nodes ++ [node] ∧ node.depth = walk.nodes.length ∧
    node.address = address ∧ node.isCycle = false
  visited : walk'.visited = address.toList ++ walk.visited
  cycle : walk'.cycle = walk.cycle

theorem Grows.length {address : Option Address} (h : Grows walk walk' address) :
    walk'.nodes.length = walk.nodes.length + 1 := by
  obtain ⟨node, hn, -⟩ := h.nodes
  rw [hn, List.length_append, List.length_singleton]

theorem grows_add (node : ExceptionNode) (next : Option Address) (tree : ObjectTree)
    (hd : node.depth = walk.nodes.length) (hc : node.isCycle = false) {address : Address}
    (ha : node.address = some address) :
    Grows walk (((walk.visit address).inspect introspector limits address).2.add node next tree)
      (some address) := by
  unfold add
  split
  · exact ⟨⟨node.complete tree, rfl, hd, ha, hc⟩, rfl, rfl⟩
  · exact ⟨⟨node, rfl, hd, ha, hc⟩, rfl, rfl⟩

theorem grows_addRecord (walk : ChainWalk) (record : ExceptionRecord) :
    Grows walk (walk.addRecord introspector limits record) record.address := by
  unfold addRecord
  cases h : record.address with
  | some address => exact grows_add introspector limits _ _ _ rfl rfl (by simp [h])
  | none => exact ⟨⟨_, rfl, rfl, by simp [h], rfl⟩, rfl, rfl⟩

/-! ## The invariant -/

/-- What every walk keeps, whether or not it goes on. -/
structure Sound (maxDepth : ℕ) (walk : ChainWalk) : Prop where
  depths : walk.nodes.map ExceptionNode.depth = List.range walk.nodes.length
  plain : ∀ n ∈ walk.nodes, n.isCycle = false
  distinct : walk.addresses.Nodup
  bounded : walk.nodes.length + walk.cycle.toList.length ≤ maxDepth
  marker : ∀ m, walk.cycle = some m →
    m.isCycle = true ∧ m.depth = walk.nodes.length ∧ ∃ a ∈ walk.addresses, m.address = some a

/-- **A walk that goes on**: it has met no cycle, and it has seen the addresses of its
nodes. -/
structure Live (maxDepth : ℕ) (walk : ChainWalk) : Prop extends Sound maxDepth walk where
  noCycle : walk.cycle = none
  visited : ∀ a, a ∈ walk.visited ↔ a ∈ walk.addresses

/-- A step to an address that the walk has not seen keeps it alive. -/
theorem Live.grow (h : Live maxDepth walk) {address : Option Address}
    (hg : Grows walk walk' address) (hnew : ∀ a ∈ address, a ∉ walk.visited)
    (hlen : walk.nodes.length < maxDepth) : Live maxDepth walk' := by
  obtain ⟨node, hn, hd, ha, hc⟩ := hg.nodes
  have hcycle : walk'.cycle = none := by rw [hg.cycle, h.noCycle]
  have haddr : walk'.addresses = walk.addresses ++ address.toList := by
    unfold addresses
    rw [hn, List.filterMap_append]
    cases address <;> simp [ha]
  refine ⟨⟨?_, ?_, ?_, ?_, ?_⟩, hcycle, ?_⟩
  · rw [hn, List.map_append, h.depths, List.length_append, List.map_singleton, hd]
    exact List.range_succ.symm
  · intro n hmem
    rw [hn, List.mem_append, List.mem_singleton] at hmem
    rcases hmem with hmem | rfl
    · exact h.plain n hmem
    · exact hc
  · rw [haddr, List.nodup_append]
    refine ⟨h.distinct, by cases address <;> simp, fun a hm b hb => ?_⟩
    rintro rfl
    exact hnew a (Option.mem_toList.1 hb) ((h.visited a).2 hm)
  · rw [hn, hcycle, List.length_append]
    exact hlen
  · intro m hm
    rw [hcycle] at hm
    cases hm
  · intro a
    rw [hg.visited, haddr, List.mem_append, List.mem_append, h.visited a, or_comm]

/-- An address that the walk has seen ends it soundly. -/
theorem Live.endAt (h : Live maxDepth walk) {address : Address} (hseen : address ∈ walk.visited)
    (hlen : walk.nodes.length < maxDepth) (typeName : Option String) :
    Sound maxDepth (walk.endAt address typeName) := by
  refine ⟨h.depths, h.plain, h.distinct, hlen, fun m hm => ?_⟩
  cases hm
  exact ⟨rfl, rfl, address, (h.visited address).1 hseen, rfl⟩

/-! ## Runs -/

/-- **Printed exceptions keep a walk alive until it meets a cycle.** -/
theorem Live.addRecords (records : List ExceptionRecord) : ∀ {walk}, Live maxDepth walk →
    Sound maxDepth (walk.addRecords introspector limits maxDepth records) ∧
      ((walk.addRecords introspector limits maxDepth records).cycle = none →
        Live maxDepth (walk.addRecords introspector limits maxDepth records)) := by
  induction records with
  | nil => intro walk h; exact ⟨h.toSound, fun _ => h⟩
  | cons record records ih =>
    intro walk h
    unfold ChainWalk.addRecords
    split
    · exact ⟨h.toSound, fun _ => h⟩
    rename_i hlen
    split
    · rename_i address hseen
      rw [Option.filter_eq_some_iff] at hseen
      refine ⟨h.endAt (by simpa using hseen.2) (by omega) _, fun hc => ?_⟩
      cases hc
    · rename_i hnew
      rw [Option.filter_eq_none_iff] at hnew
      have hg := grows_addRecord introspector limits walk record
      exact ih (h.grow hg (by simpa using hnew) (by omega))

/-- **Following inner exceptions ends soundly**, as long as the steps fit the length. -/
theorem Live.follow (steps : ℕ) : ∀ {walk}, Live maxDepth walk →
    walk.nodes.length + steps ≤ maxDepth →
      Sound maxDepth (walk.follow introspector limits steps) := by
  induction steps with
  | zero => intro walk h _; exact h.toSound
  | succ steps ih =>
    intro walk h hlen
    unfold ChainWalk.follow
    split
    · rename_i address _ _
      split
      · rename_i hseen
        exact h.endAt (by simpa using hseen) (by omega) none
      · rename_i hnew
        simp only [inspect]
        split
        · rename_i typeName _ _ htree
          have hg : Grows walk _ (some address) := grows_add introspector limits
            (.ofRecord { address := some address, typeName := some typeName } walk.nodes.length)
            none (introspector.inspectOrPlaceholder (walk.visit address).inspected address limits)
            rfl rfl rfl
          have hlive := h.grow hg (by simpa using hnew) (by omega)
          have hsound := ih hlive (by rw [hg.length]; omega)
          exact hsound
        -- an object that cannot be read ends the walk where it is
        · exact ⟨h.depths, h.plain, h.distinct, h.bounded, h.marker⟩
    · exact h.toSound

/-- The outermost exception starts a live walk. -/
theorem live_root (root : ExceptionRecord) (hmax : 1 ≤ maxDepth) :
    Live maxDepth (addRecord introspector limits {} root) := by
  have hstart : Live maxDepth {} := by
    refine ⟨⟨rfl, ?_, List.nodup_nil, Nat.zero_le _, ?_⟩, rfl, ?_⟩ <;> simp [addresses]
  exact hstart.grow (grows_addRecord introspector limits {} root) (by simp) hmax

theorem follow_of_cycle (hc : walk.cycle ≠ none) (steps : ℕ) :
    walk.follow introspector limits steps = walk := by
  obtain ⟨m, hm⟩ := Option.ne_none_iff_exists'.1 hc
  cases steps with
  | zero => rfl
  | succ steps =>
    unfold ChainWalk.follow
    rw [hm]

/-- **Every walk ends soundly.** -/
theorem ofRecords_sound (records : List ExceptionRecord) (hmax : 1 ≤ maxDepth) :
    Sound maxDepth (ofRecords introspector limits maxDepth records) := by
  cases records with
  | nil =>
    unfold ofRecords
    exact ⟨rfl, by simp, List.nodup_nil, by simp, by simp⟩
  | cons root records =>
    obtain ⟨hsound, hlive⟩ := (live_root introspector limits root hmax).addRecords
      introspector limits records
    unfold ofRecords
    simp only
    set printed := addRecords introspector limits maxDepth records
      (addRecord introspector limits {} root)
    -- a cycle among the printed exceptions leaves nothing to follow
    by_cases hc : printed.cycle = none
    · have := hsound.bounded
      exact (hlive hc).follow introspector limits _ (by omega)
    · rw [follow_of_cycle introspector limits hc]
      exact hsound

end ChainWalk

/-! ## Chains -/

/-- **A chain as it is promised**: not too long, numbered from the outside in, and without
a repeated address, except that the innermost node may stand for one further out. -/
structure ExceptionChain.WellFormed (maxDepth : ℕ) (chain : ExceptionChain) : Prop where
  length_le : chain.nodes.length ≤ maxDepth
  depth : ∀ (i : ℕ) (n : ExceptionNode), chain.nodes[i]? = some n → n.depth = i
  distinct : ((chain.nodes.filter (!·.isCycle)).filterMap ExceptionNode.address).Nodup
  oneMarker : (chain.nodes.filter ExceptionNode.isCycle).length ≤ 1
  marker : ∀ (i : ℕ) (n : ExceptionNode), chain.nodes[i]? = some n → n.isCycle = true →
    i + 1 = chain.nodes.length ∧ ∃ a, n.address = some a ∧
      ∃ j < i, ∃ earlier, chain.nodes[j]? = some earlier ∧ earlier.address = some a

namespace ChainWalk

variable {walk : ChainWalk} {chain : ExceptionChain} {maxDepth : ℕ}

theorem nodes_of_chain? (h : walk.chain? = some chain) :
    chain.nodes = walk.nodes ++ walk.cycle.toList := by
  unfold chain? at h
  split at h
  · cases h
  · rename_i hn
    cases h
    exact hn.symm

/-- A node of the chain is a node of the walk, or the marker behind them. -/
theorem node_cases (h : walk.chain? = some chain) {i : ℕ} {n : ExceptionNode}
    (hi : chain.nodes[i]? = some n) :
    walk.nodes[i]? = some n ∨ walk.cycle = some n ∧ i = walk.nodes.length := by
  rw [nodes_of_chain? h, List.getElem?_append] at hi
  split at hi
  · exact Or.inl hi
  · rename_i hlt
    obtain ⟨hk, hn⟩ := List.getElem?_eq_some_iff.1 hi
    have hlen : walk.cycle.toList.length ≤ 1 := by cases walk.cycle <;> simp
    exact Or.inr ⟨Option.mem_toList.1 (List.mem_of_getElem? hi), by omega⟩

/-- The chain of a sound walk is well formed. -/
theorem Sound.wellFormed (hs : Sound maxDepth walk) (h : walk.chain? = some chain) :
    chain.WellFormed maxDepth := by
  have hnodes := nodes_of_chain? h
  refine ⟨?_, fun i n hi => ?_, ?_, ?_, fun i n hi hc => ?_⟩
  · rw [hnodes, List.length_append]
    exact hs.bounded
  · rcases node_cases h hi with hw | ⟨hw, rfl⟩
    · have hd : (walk.nodes.map ExceptionNode.depth)[i]? = some n.depth := by
        rw [List.getElem?_map, hw]; rfl
      rw [hs.depths, List.getElem?_range (List.getElem?_eq_some_iff.1 hw).1] at hd
      exact (Option.some.inj hd).symm
    · exact (hs.marker n hw).2.1
  · have hplain : walk.nodes.filter (!·.isCycle) = walk.nodes :=
      List.filter_eq_self.2 fun n hn => by simp [hs.plain n hn]
    have hmarker : walk.cycle.toList.filter (!·.isCycle) = [] :=
      List.filter_eq_nil_iff.2 fun n hn => by simp [(hs.marker n (Option.mem_toList.1 hn)).1]
    rw [hnodes, List.filter_append, hplain, hmarker, List.append_nil]
    exact hs.distinct
  · have hplain : walk.nodes.filter ExceptionNode.isCycle = [] :=
      List.filter_eq_nil_iff.2 fun n hn => by simp [hs.plain n hn]
    rw [hnodes, List.filter_append, hplain, List.nil_append]
    refine (List.length_filter_le _ _).trans ?_
    cases walk.cycle <;> simp
  · rcases node_cases h hi with hw | ⟨hw, rfl⟩
    · have := hs.plain n (List.mem_of_getElem? hw)
      rw [hc] at this
      cases this
    · obtain ⟨-, -, a, ha, hna⟩ := hs.marker n hw
      refine ⟨by rw [hnodes, hw]; simp, a, hna, ?_⟩
      obtain ⟨earlier, he, hea⟩ := List.mem_filterMap.1 ha
      obtain ⟨j, hj⟩ := List.mem_iff_getElem?.1 he
      have hlt : j < walk.nodes.length := (List.getElem?_eq_some_iff.1 hj).1
      exact ⟨j, hlt, earlier, by rw [hnodes, List.getElem?_append_left hlt, hj], hea⟩

end ChainWalk

/-- **Chains of exceptions are well formed**, for every text, every introspector and every
greatest length: whatever the inspections answer, the walk ends by then and never follows
an address twice. -/
theorem ofText_wellFormed (introspector : Introspector) (limits : InspectLimits) {maxDepth : ℕ}
    (hmax : 1 ≤ maxDepth) (text : String) {chain : ExceptionChain}
    (h : (ChainWalk.ofText introspector limits maxDepth text).chain? = some chain) :
    chain.WellFormed maxDepth :=
  (ChainWalk.ofRecords_sound introspector limits _ hmax).wellFormed h

/-- Two exception objects that hold each other. -/
def crossedCauses : Introspector where
  inspect _ address _ :=
    let other : Address := if address = ⟨0x1d4a10⟩ then ⟨0x1d4b20⟩ else ⟨0x1d4a10⟩
    .ok (.object "App.Error" (some address)
      [("_innerException", .object "App.Error" (some other) [])])

/-- The walk leaves the text, follows one object and ends where the other points back. -/
theorem ofText_wellFormed_crossedCauses :
    1 ≤ 3 ∧ ∃ chain, (ChainWalk.ofText crossedCauses {} 3
        "Exception object: 1d4a10\nException type: App.Error\n").chain? = some chain ∧
      chain.nodes.map ExceptionNode.isCycle = [false, false, true] ∧ chain.WellFormed 3 := by
  have hsome : ((ChainWalk.ofText crossedCauses {} 3
      "Exception object: 1d4a10\nException type: App.Error\n").chain?.map
        (·.nodes.map ExceptionNode.isCycle)) = some [false, false, true] := by decide +kernel
  obtain ⟨chain, hc, hn⟩ := Option.map_eq_some_iff.1 hsome
  exact ⟨by decide, chain, hc, hn, ofText_wellFormed crossedCauses {} (by decide) _ hc⟩

end Postmortem
