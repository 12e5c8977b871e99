import Postmortem.Proofs.Exception.ChainWalk

/-!
# What introspection adds to a chain

Two walks through one text, the second without any inspected object. As long as there are printed
exceptions they go side by side (`Extends`): the first one may know more of each exception and an
inner address where the second has none, but it has seen the same addresses. Behind the text the
second can take no step, since the object there cannot be read, and whatever the first one finds
comes behind.

* `Extends.addRecord`, `Extends.addRecords`: printed exceptions keep the walks side by side.
* `Extends.follow`: what the second walk has then, the first one has in front.
* `ofText_extends`: **introspection only adds to a chain.**
-/

namespace Postmortem

/-- Whether no inspection succeeds. -/
def Introspector.Fails (introspector : Introspector) : Prop :=
  ∀ earlier address limits, ∃ e, introspector.inspect earlier address limits = .error e

theorem Introspector.fails_none : Introspector.none.Fails := fun _ _ _ => ⟨_, rfl⟩

theorem Introspector.Fails.inspectOrPlaceholder {introspector : Introspector}
    (h : introspector.Fails) (earlier : List Address) (address : Address)
    (limits : InspectLimits) :
    ∃ reason, introspector.inspectOrPlaceholder earlier address limits = .unavailable reason := by
  obtain ⟨e, he⟩ := h earlier address limits
  unfold Introspector.inspectOrPlaceholder
  rw [he]
  exact ⟨e.message, rfl⟩

/-! ## Nodes -/

/-- **A node that knows at least as much as another one**: it shows the same exception and has
every value that the other one has. -/
structure ExceptionNode.Fills (filled node : ExceptionNode) : Prop where
  depth : filled.depth = node.depth
  typeName : filled.typeName = node.typeName
  address : filled.address = node.address
  category : filled.category = node.category
  stackTrace : filled.stackTrace = node.stackTrace
  isCycle : filled.isCycle = node.isCycle
  message : ∀ v, node.message = some v → filled.message = some v
  source : ∀ v, node.source = some v → filled.source = some v
  hresult : ∀ v, node.hresult = some v → filled.hresult = some v

namespace ExceptionNode

theorem Fills.refl (node : ExceptionNode) : node.Fills node :=
  ⟨rfl, rfl, rfl, rfl, rfl, rfl, fun _ h => h, fun _ h => h, fun _ h => h⟩

/-- What is read from an object stands behind what the text says. -/
theorem fills_complete (node : ExceptionNode) (tree : ObjectTree) :
    (node.complete tree).Fills node := by
  have hkept : ∀ {v? other? : Option String} (v : String), v? = some v →
      (v? <|> other?) = some v := by
    rintro _ _ v rfl
    rfl
  exact ⟨rfl, rfl, rfl, rfl, rfl, rfl, fun v => hkept v, fun v => hkept v, fun v => hkept v⟩

end ExceptionNode

/-! ## Two walks -/

namespace ChainWalk

variable {introspector failing : Introspector} (limits : InspectLimits) {maxDepth : ℕ}
variable {more less : ChainWalk}

/-- **Two walks side by side**: the first one knows at least as much of each exception. -/
structure Extends (more less : ChainWalk) : Prop where
  nodes : List.Forall₂ ExceptionNode.Fills more.nodes less.nodes
  next : ∀ a, less.next = some a → more.next = some a
  visited : more.visited = less.visited
  cycle : more.cycle = less.cycle

/-- All nodes of a walk, the marker at the end included. -/
def shown (walk : ChainWalk) : List ExceptionNode := walk.nodes ++ walk.cycle.toList

theorem Extends.length (h : Extends more less) : more.nodes.length = less.nodes.length :=
  h.nodes.length_eq

/-- One more exception, of which the first walk may know more. -/
theorem Extends.snoc {more' less' : ChainWalk} (h : Extends more less) {filled node : ExceptionNode}
    (hmore : more'.nodes = more.nodes ++ [filled]) (hless : less'.nodes = less.nodes ++ [node])
    (hfills : filled.Fills node) (hnext : ∀ a, less'.next = some a → more'.next = some a)
    (hvisited : more'.visited = less'.visited) (hcycle : more'.cycle = less'.cycle) :
    Extends more' less' := by
  refine ⟨?_, hnext, hvisited, hcycle⟩
  rw [hmore, hless]
  exact List.rel_append h.nodes (.cons hfills .nil)

/-- **A printed exception keeps the walks side by side.** -/
theorem Extends.addRecord (hfails : failing.Fails) (h : Extends more less)
    (record : ExceptionRecord) :
    Extends (more.addRecord introspector limits record)
      (less.addRecord failing limits record) := by
  unfold ChainWalk.addRecord
  rw [h.length]
  cases record.address with
  | none =>
    exact h.snoc rfl rfl (.refl _) (fun _ ha => ha) h.visited h.cycle
  | some address =>
    obtain ⟨reason, hreason⟩ :=
      hfails.inspectOrPlaceholder (less.visit address).inspected address limits
    have hvisited : address :: more.visited = address :: less.visited := by rw [h.visited]
    simp only [inspect, hreason]
    unfold add
    split
    · refine h.snoc rfl rfl (ExceptionNode.fills_complete _ _) (fun a ha => ?_) hvisited h.cycle
      -- an object may only tell of an inner exception where the text does not
      have hinner : record.innerAddress = some a := ha
      simp only [hinner]
      rfl
    · exact h.snoc rfl rfl (.refl _) (fun _ ha => ha) hvisited h.cycle

/-- **The walks stay side by side to the end of the text**, whether a cycle or the greatest
length ends them there. -/
theorem Extends.addRecords (hfails : failing.Fails) (records : List ExceptionRecord) :
    ∀ {more less}, Extends more less →
      Extends (more.addRecords introspector limits maxDepth records)
        (less.addRecords failing limits maxDepth records) := by
  induction records with
  | nil => exact fun h => h
  | cons record records ih =>
    intro more less h
    unfold ChainWalk.addRecords
    rw [h.length, h.visited]
    split
    · exact h
    split
    · rename_i address _
      refine ⟨h.nodes, h.next, h.visited, ?_⟩
      show some _ = some _
      rw [h.length]
    · exact ih (h.addRecord limits hfails record)

/-- Following inner exceptions only adds nodes. -/
theorem nodes_prefix_follow (introspector : Introspector) (steps : ℕ) :
    ∀ walk : ChainWalk, walk.nodes <+: (walk.follow introspector limits steps).nodes := by
  induction steps with
  | zero => exact fun walk => List.prefix_rfl
  | succ steps ih =>
    intro walk
    unfold follow
    split
    · rename_i address _ _
      split
      · exact List.prefix_rfl
      · simp only [inspect]
        split
        · refine List.IsPrefix.trans ?_ (ih _)
          unfold add
          split <;> exact List.prefix_append _ _
        · exact List.prefix_rfl
    · exact List.prefix_rfl

/-- **What the walk without objects has, the other one has in front.** -/
theorem Extends.follow (hfails : failing.Fails) (h : Extends more less) (steps : ℕ) :
    ∃ front, front <+: (more.follow introspector limits steps).shown ∧
      List.Forall₂ ExceptionNode.Fills front (less.follow failing limits steps).shown := by
  have hshown : ∀ {more less : ChainWalk}, Extends more less →
      List.Forall₂ ExceptionNode.Fills more.shown less.shown := by
    intro more less h
    unfold shown
    rw [h.cycle]
    exact List.rel_append h.nodes (List.forall₂_same.2 fun node _ => .refl node)
  -- behind the text there are two ways only for the second walk: it ends where it is, or a cycle
  -- ends both
  have hended : ∀ walk : ChainWalk, walk.nodes = less.nodes → walk.cycle = none →
      ∃ front, front <+: (more.follow introspector limits steps).shown ∧
        List.Forall₂ ExceptionNode.Fills front walk.shown := by
    intro walk hnodes hcycle
    refine ⟨more.nodes,
      (nodes_prefix_follow limits introspector steps more).trans (List.prefix_append _ _), ?_⟩
    unfold shown
    rw [hnodes, hcycle, Option.toList_none, List.append_nil]
    exact h.nodes
  cases steps with
  | zero => exact ⟨more.shown, List.prefix_rfl, hshown h⟩
  | succ steps =>
    cases hcycle : less.cycle with
    | some marker =>
      have hsome : less.cycle ≠ none := by simp [hcycle]
      rw [follow_of_cycle failing limits hsome,
        follow_of_cycle introspector limits (by rw [h.cycle]; exact hsome)]
      exact ⟨more.shown, List.prefix_rfl, hshown h⟩
    | none =>
      cases hnext : less.next with
      | none =>
        have hstay : less.follow failing limits (steps + 1) = less := by
          unfold ChainWalk.follow
          rw [hcycle, hnext]
        rw [hstay]
        exact hended less rfl hcycle
      | some address =>
        by_cases hseen : less.visited.contains address = true
        · have hless : less.follow failing limits (steps + 1) = less.endAt address none := by
            unfold ChainWalk.follow
            rw [hcycle, hnext]
            exact if_pos hseen
          have hmore : more.follow introspector limits (steps + 1) = more.endAt address none := by
            unfold ChainWalk.follow
            rw [h.cycle, hcycle, h.next address hnext, h.visited]
            exact if_pos hseen
          rw [hless, hmore]
          refine ⟨_, List.prefix_rfl, hshown ⟨h.nodes, h.next, h.visited, ?_⟩⟩
          unfold endAt
          simp only [h.length]
        · obtain ⟨reason, hreason⟩ :=
            hfails.inspectOrPlaceholder (less.visit address).inspected address limits
          have hless : less.follow failing limits (steps + 1) =
              ((less.visit address).inspect failing limits address).2 := by
            unfold ChainWalk.follow
            rw [hcycle, hnext]
            simp only [hseen, inspect, hreason]
            rfl
          rw [hless]
          exact hended _ rfl hcycle

/-- **Of two walks through the same printed exceptions, the one with objects has at least what
the other one has.** -/
theorem ofRecords_extends (introspector : Introspector) (hfails : failing.Fails)
    (records : List ExceptionRecord) :
    ∃ front, front <+: (ofRecords introspector limits maxDepth records).shown ∧
      List.Forall₂ ExceptionNode.Fills front (ofRecords failing limits maxDepth records).shown := by
  cases records with
  | nil => exact ⟨[], List.nil_prefix, .nil⟩
  | cons root records =>
    have hstart : Extends {} {} := ⟨.nil, fun _ ha => ha, rfl, rfl⟩
    have hprinted : Extends
        (addRecords introspector limits maxDepth records (addRecord introspector limits {} root))
        (addRecords failing limits maxDepth records (addRecord failing limits {} root)) :=
      (hstart.addRecord limits hfails root).addRecords limits hfails records
    unfold ofRecords
    simp only
    rw [hprinted.length]
    exact hprinted.follow limits hfails _

/-! ## Chains -/

theorem nodes_prefix_addRecords (introspector : Introspector) (records : List ExceptionRecord) :
    ∀ walk : ChainWalk,
      walk.nodes <+: (walk.addRecords introspector limits maxDepth records).nodes := by
  induction records with
  | nil => exact fun walk => List.prefix_rfl
  | cons record records ih =>
    intro walk
    unfold addRecords
    split
    · exact List.prefix_rfl
    split
    · exact List.prefix_rfl
    · obtain ⟨node, hnode, -⟩ := (grows_addRecord introspector limits walk record).nodes
      exact (hnode ▸ List.prefix_append walk.nodes [node]).trans (ih _)

/-- **There is a chain iff there is a printed exception**, whatever can be inspected. -/
theorem chain?_ofRecords_eq_none_iff (introspector : Introspector)
    (records : List ExceptionRecord) :
    (ofRecords introspector limits maxDepth records).chain? = none ↔ records = [] := by
  cases records with
  | nil => exact iff_of_true rfl rfl
  | cons root records =>
    refine iff_of_false ?_ (List.cons_ne_nil _ _)
    obtain ⟨node, hnode, -⟩ := (grows_addRecord introspector limits {} root).nodes
    have hroot : [node] <+: (ofRecords introspector limits maxDepth (root :: records)).nodes := by
      rw [List.nil_append] at hnode
      rw [← hnode]
      exact (nodes_prefix_addRecords limits introspector records _).trans
        (nodes_prefix_follow limits introspector _ _)
    obtain ⟨rest, hrest⟩ := hroot
    unfold chain?
    rw [← hrest]
    exact Option.some_ne_none _

end ChainWalk

/-- **A chain to which introspection has added**: it is at least as long, and each of its first
nodes knows at least as much as the node of the other chain at its place. -/
structure ExceptionChain.Extends (more less : ExceptionChain) : Prop where
  length_le : less.nodes.length ≤ more.nodes.length
  fills : ∀ (i : ℕ) (node : ExceptionNode), less.nodes[i]? = some node →
    ∃ filled, more.nodes[i]? = some filled ∧ filled.Fills node

/-- A chain extends another one if it has nodes in front that fill the other one's. -/
theorem ExceptionChain.extends_of_prefix {more less : ExceptionChain} {front : List ExceptionNode}
    (hfront : front <+: more.nodes) (h : List.Forall₂ ExceptionNode.Fills front less.nodes) :
    more.Extends less := by
  refine ⟨h.length_eq ▸ hfront.length_le, fun i node hi => ?_⟩
  obtain ⟨hlt, rfl⟩ := List.getElem?_eq_some_iff.1 hi
  have hlt' : i < front.length := by rw [h.length_eq]; exact hlt
  obtain ⟨rest, hrest⟩ := hfront
  refine ⟨front[i], ?_, List.forall₂_iff_get.1 h |>.2 i hlt' hlt⟩
  rw [← hrest, List.getElem?_append_left hlt', List.getElem?_eq_getElem hlt']

/-- **Introspection only adds to a chain**, for every text and every greatest length: beside an
introspector that cannot inspect anything, any other one finds a chain in the same texts, and its
chain extends the other one's. -/
theorem ofText_extends (introspector : Introspector) {failing : Introspector}
    (hfails : failing.Fails) (limits : InspectLimits) (maxDepth : ℕ) (text : String) :
    ((ChainWalk.ofText introspector limits maxDepth text).chain?.isSome =
      (ChainWalk.ofText failing limits maxDepth text).chain?.isSome) ∧
    ∀ more less, (ChainWalk.ofText introspector limits maxDepth text).chain? = some more →
      (ChainWalk.ofText failing limits maxDepth text).chain? = some less →
        more.Extends less := by
  refine ⟨?_, fun more less hmore hless => ?_⟩
  · rw [Bool.eq_iff_iff, Option.isSome_iff_ne_none, Option.isSome_iff_ne_none]
    exact not_congr ((ChainWalk.chain?_ofRecords_eq_none_iff limits introspector _).trans
      (ChainWalk.chain?_ofRecords_eq_none_iff limits failing _).symm)
  · obtain ⟨front, hfront, hfills⟩ :=
      ChainWalk.ofRecords_extends limits introspector hfails
        ((nestedSections text).filterMap ExceptionRecord.ofListing?)
    have hprefix : front <+: more.nodes := by
      rw [ChainWalk.nodes_of_chain? hmore]
      exact hfront
    have hnodes : List.Forall₂ ExceptionNode.Fills front less.nodes := by
      rw [ChainWalk.nodes_of_chain? hless]
      exact hfills
    exact ExceptionChain.extends_of_prefix hprefix hnodes

/-- The text has one exception; only the objects tell of the one inside and of the way back. -/
theorem ofText_extends_crossedCauses :
    Introspector.none.Fails ∧ ∃ more less,
      (ChainWalk.ofText crossedCauses {} 3
        "Exception object: 1d4a10\nException type: App.Error\n").chain? = some more ∧
      (ChainWalk.ofText .none {} 3
        "Exception object: 1d4a10\nException type: App.Error\n").chain? = some less ∧
      more.nodes.length = 3 ∧ less.nodes.length = 1 ∧ more.Extends less := by
  have hmore : ((ChainWalk.ofText crossedCauses {} 3
      "Exception object: 1d4a10\nException type: App.Error\n").chain?.map
        (·.nodes.length)) = some 3 := by decide +kernel
  have hless : ((ChainWalk.ofText .none {} 3
      "Exception object: 1d4a10\nException type: App.Error\n").chain?.map
        (·.nodes.length)) = some 1 := by decide +kernel
  obtain ⟨more, hm, hmn⟩ := Option.map_eq_some_iff.1 hmore
  obtain ⟨less, hl, hln⟩ := Option.map_eq_some_iff.1 hless
  exact ⟨Introspector.fails_none, more, less, hm, hl, hmn, hln,
    (ofText_extends crossedCauses Introspector.fails_none {} 3 _).2 more less hm hl⟩

end Postmortem
